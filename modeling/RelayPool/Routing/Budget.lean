import RelayPool.Runs
import RelayPool.Routing.Execute

/-! What a request may send, and that it ends.

Every pass that does not wait for the routing generation brings the request closer
to one of its guards, so the loop ends. The coordinator counts the keys the request
has left; a key that is being retried is not counted yet, and its own counter starts
over when another key is taken in between. The main result is `attempts_bounded`:
as long as a retried key is taken again, the keys stay within the distinct-key
budget and each key within the failure threshold. -/
namespace RelayPool.Routing
open Runs Fallible

/-- The circuit admission answers that the routing generation is in transition. -/
def Turn.waits (t : Turn) : Bool :=
  match t.circuit with
  | .ok .deniedGenerationFence => true
  | .ok .deniedStaleGeneration => true
  | _ => false

namespace Execution

/-! ### The end of the loop -/

/-- The coordinator's view of the runtime is behind: the next pass replans. -/
def behind (e : Execution) : Nat :=
  if e.controller.runtimeOverlayRevision < e.runtimeRevision then 1 else 0

theorem behind_le (e : Execution) : e.behind ≤ 1 := by
  unfold behind
  split <;> omega

/-- How far the guards of the loop are used up. -/
def spent (e : Execution) : Nat := e.attemptIndex + 2 * e.replanCount + e.behind

/-- A request that goes on stays within them. -/
structure Within (e : Execution) : Prop where
  index : e.attemptIndex ≤ e.attemptLimit
  replans : e.replanCount ≤ maxExecutionReplans

theorem attemptLimit_le (e : Execution) : e.attemptLimit ≤ maxExecutionAttemptsHardCap := by
  unfold attemptLimit executionAttemptLimit maxExecutionAttemptsHardCap
  omega

theorem Within.spent_le {e : Execution} (h : Within e) : e.spent ≤ 47 := by
  have index := h.index.trans e.attemptLimit_le
  have replans := h.replans
  unfold maxExecutionAttemptsHardCap at index
  unfold maxExecutionReplans at replans
  have behind := e.behind_le
  unfold spent
  omega

theorem ended_not_running {e e' : Execution} (h : Ended e e') : e'.result ≠ none :=
  Option.isSome_iff_ne_none.mp h.finished

theorem pass_within {e e' : Execution} {t : Turn} (passes : Passes e t e')
    (h : e.result = none → Within e) (goesOn : e'.result = none) : Within e' := by
  cases passes with
  | finished => exact h goesOn
  | stops running ended => exact absurd goesOn (ended_not_running ended)
  | ends route failure runs _ ended => exact absurd goesOn (ended_not_running ended)
  | replans transition snapshots runs _ left => exact ⟨(h runs.running).index, left⟩
  | fences route snapshots runs =>
    obtain ⟨index, replans⟩ := h runs.running
    exact ⟨by simpa [withSnapshots, attemptLimit] using index, by simpa [withSnapshots] using replans⟩
  | denies route runs =>
    obtain ⟨index, replans⟩ := h runs.running
    exact ⟨by simpa [denied, attemptLimit] using index, by simpa [denied] using replans⟩
  | retries route failure leased runs =>
    have next : e.attemptIndex + 1 ≤ e.attemptLimit := runs.withinLimit
    refine ⟨by simpa [retried, advanced, sent, attemptLimit] using next, ?_⟩
    simpa [retried, advanced, sent] using (h runs.running).replans
  | moves route failure leased runs =>
    have next : e.attemptIndex + 1 ≤ e.attemptLimit := runs.withinLimit
    refine ⟨by simpa [left, advanced, sent, attemptLimit] using next, ?_⟩
    simpa [left, advanced, sent] using (h runs.running).replans

/-- No pass takes a target on a view of the runtime that is behind. -/
theorem spent_of_picks {e : Execution} {t : Turn} {route : SelectedRoute}
    (picks : e.Picks t route) : e.spent = e.attemptIndex + 2 * e.replanCount := by
  have current : e.runtimeRevision + t.runtimeChanges = e.controller.runtimeOverlayRevision :=
    picks.choice.may.current
  unfold spent behind
  rw [if_neg (by omega)]
  rfl

/-- A denial leaves the view behind. -/
theorem denied_behind {e : Execution} {t : Turn} {route : SelectedRoute}
    (picks : e.Picks t route) :
    ((e.picked t route.candidate).denied route.candidate.stationKeyId).behind = 1 := by
  have choice := picks.choice
  have current : e.runtimeRevision + t.runtimeChanges = e.controller.runtimeOverlayRevision :=
    choice.may.current
  have same : ((e.picked t route.candidate).denied
      route.candidate.stationKeyId).controller.runtimeOverlayRevision =
      e.controller.runtimeOverlayRevision := by
    rw [← choice.revision]
    unfold denied RouteAdmissionCoordinator.excludeStationKey
    dsimp only
    split
    · rfl
    · split <;> rfl
  unfold behind
  rw [same, if_pos]
  show _ < (e.picked t route.candidate).runtimeRevision + 1
  rw [picked_runtimeRevision]
  omega

/-- A pass that goes on raises what is spent, unless it waits. -/
theorem pass_spends {e e' : Execution} {t : Turn} (passes : Passes e t e')
    (goesOn : e'.result = none) :
    e.Runs t ∧ e.spent + (if t.waits then 0 else 1) ≤ e'.spent := by
  have weight : (if t.waits then 0 else 1) ≤ 1 := by split <;> omega
  cases passes with
  | finished finished =>
    rw [goesOn] at finished
    cases finished
  | stops running ended => exact absurd goesOn (ended_not_running ended)
  | ends route failure runs _ ended => exact absurd goesOn (ended_not_running ended)
  | replans transition snapshots runs =>
    have behind := e.behind_le
    refine ⟨runs, ?_⟩
    show e.attemptIndex + 2 * e.replanCount + e.behind + _ ≤
      e.attemptIndex + 2 * (e.replanCount + 1) + _
    omega
  | fences route snapshots runs picks circuit =>
    have waits : t.waits = true := by
      unfold Turn.waits
      rcases circuit with circuit | circuit <;> rw [circuit]
    refine ⟨runs, ?_⟩
    rw [spent_of_picks picks, waits]
    simp [spent, withSnapshots]
  | denies route runs picks =>
    refine ⟨runs, ?_⟩
    rw [spent_of_picks picks, spent, denied_behind picks]
    simp only [denied, picked_attemptIndex, picked_replanCount]
    omega
  | retries route failure leased runs picks =>
    refine ⟨runs, ?_⟩
    rw [spent_of_picks picks]
    simp only [spent, retried, advanced, sent, picked_attemptIndex, picked_replanCount]
    omega
  | moves route failure leased runs picks =>
    refine ⟨runs, ?_⟩
    rw [spent_of_picks picks]
    simp only [spent, left, advanced, sent, picked_attemptIndex, picked_replanCount]
    omega

def Running (e : Execution) : Prop := e.result = none

/-- The request can be in the loop for at most 47 passes that do not wait for the
routing generation, and never past its deadline. -/
theorem loop_ends (request : ExecuteRequest) (turns : List Turn)
    (goesOn : Running (run pass (start request) turns)) :
    turns.countP (!·.waits) ≤ 47 ∧ ∀ t ∈ turns, t.deadlineLeft := by
  have step : ∀ e t, Running (pass e t) → Running e ∧
      e.spent + (if t.waits then 0 else 1) ≤ (pass e t).spent := fun e t h =>
    ⟨(pass_spends (pass_cases e t) h).1.running, (pass_spends (pass_cases e t) h).2⟩
  have within : Running (run pass (start request) turns) →
      Within (run pass (start request) turns) := by
    have preserved : ∀ e t, (Running e → Within e) → Running (pass e t) → Within (pass e t) :=
      fun e t => pass_within (pass_cases e t)
    exact run_invariant preserved (fun _ => ⟨Nat.zero_le _, Nat.zero_le _⟩) turns
  have spends := weights_le_measure step goesOn
  have spent := (within goesOn).spent_le
  constructor
  · have count : ∀ turns : List Turn, turns.countP (!·.waits) =
        (turns.map fun t => if t.waits then 0 else 1).sum := by
      intro turns
      induction turns with
      | nil => rfl
      | cons t rest ih =>
        rw [List.countP_cons, List.map_cons, List.sum_cons, ih]
        cases t.waits <;> simp [Nat.add_comm]
    rw [count]
    omega
  · have inTime : ∀ e t, Running (pass e t) → Running e ∧ t.deadlineLeft := fun e t h =>
      ⟨(step e t h).1, (pass_spends (pass_cases e t) h).1.inTime⟩
    exact (inputs_of_live inTime goesOn).2

/-! ### The keys of a request -/

/-- How often a key was attempted. -/
def sends (e : Execution) (key : String) : Nat := (e.attempts.map (·.stationKeyId)).count key

/-- The keys that were attempted. -/
def keys (e : Execution) : Finset String := (e.attempts.map (·.stationKeyId)).toFinset

theorem mem_keys {e : Execution} {key : String} : key ∈ e.keys ↔ 0 < e.sends key := by
  rw [keys, List.mem_toFinset, sends, List.count_pos_iff]

/-- While a key is being retried, a target that is taken is the key's again. -/
def RetriesKey (e : Execution) (t : Turn) : Prop :=
  ∀ route, e.Picks t route → e.currentKeyHadOutboundAttempt →
    e.currentKeyId = some route.candidate.stationKeyId

def retriesKey (e : Execution) (t : Turn) : Bool :=
  match e.decision t with
  | .ok (.selected route) => !e.currentKeyHadOutboundAttempt ||
    decide (e.currentKeyId = some route.candidate.stationKeyId)
  | _ => true

theorem retriesKey_iff {e : Execution} {t : Turn} : e.retriesKey t = true ↔ e.RetriesKey t := by
  unfold retriesKey RetriesKey Picks
  cases e.decision t with
  | error failure => simp
  | ok answer => cases answer <;> simp [or_iff_not_imp_left]

instance (e : Execution) (t : Turn) : Decidable (e.RetriesKey t) :=
  decidable_of_iff _ retriesKey_iff

/-- What was sent is within the budget. -/
structure Bounded (e : Execution) : Prop where
  keys : e.keys.card ≤ e.request.attemptBudget.maxTotalAttempts
  sends : ∀ key, e.sends key ≤ e.request.attemptBudget.consecutiveFailureThreshold

/-- How a request that goes on accounts for what it sent: a key that is not left out
was only attempted if it is the current one, as often as its counter says, and the
keys are counted but for it. -/
structure Accounted (e : Execution) : Prop where
  retrying : ∀ key ∉ e.controller.progress.actualAttemptExclusions,
    e.currentKeyId = some key → e.sends key = e.currentKeyRetryCount
  fresh : ∀ key ∉ e.controller.progress.actualAttemptExclusions,
    e.currentKeyId ≠ some key → e.sends key = 0
  active : e.currentKeyHadOutboundAttempt = true ↔ 0 < e.currentKeyRetryCount
  below : e.currentKeyRetryCount < e.request.attemptBudget.consecutiveFailureThreshold
  charged : e.keys.card ≤ e.controller.progress.attemptCount +
    if e.currentKeyHadOutboundAttempt then 1 else 0
  maxAttempts : e.controller.maxAttempts = e.request.attemptBudget.maxTotalAttempts

/-- The account with a target of the key taken. -/
structure Taken (e : Execution) (key : String) : Prop extends Accounted e, Bounded e where
  current : e.currentKeyId = some key
  inPlay : key ∉ e.controller.progress.actualAttemptExclusions
  free : e.controller.progress.attemptCount < e.request.attemptBudget.maxTotalAttempts

theorem picked_sends (e : Execution) (t : Turn) (candidate : RoutePlanCandidate) (key : String) :
    (e.picked t candidate).sends key = e.sends key := by
  rw [sends, picked_attempts]
  rfl

theorem picked_keys (e : Execution) (t : Turn) (candidate : RoutePlanCandidate) :
    (e.picked t candidate).keys = e.keys := by
  rw [keys, picked_attempts]
  rfl

theorem Bounded.picked {e : Execution} (h : Bounded e) (t : Turn)
    (candidate : RoutePlanCandidate) : Bounded (e.picked t candidate) := by
  refine ⟨?_, fun key => ?_⟩
  · rw [picked_keys, picked_request]
    exact h.keys
  · rw [picked_sends, picked_request]
    exact h.sends key

/-- The account is the same under a view of the controller that was only asked. -/
theorem Accounted.of_kept {e e' : Execution} (h : Accounted e)
    (kept : RouteAdmissionCoordinator.Kept e.controller e'.controller)
    (attempts : e'.attempts = e.attempts) (request : e'.request = e.request)
    (current : e'.currentKeyId = e.currentKeyId)
    (count : e'.currentKeyRetryCount = e.currentKeyRetryCount)
    (had : e'.currentKeyHadOutboundAttempt = e.currentKeyHadOutboundAttempt) : Accounted e' := by
  have sends : ∀ key, e'.sends key = e.sends key := by
    intro key
    rw [Execution.sends, attempts]
    rfl
  have keys : e'.keys = e.keys := by
    rw [Execution.keys, attempts]
    rfl
  refine ⟨?_, ?_, ?_, ?_, ?_, ?_⟩
  · intro key inPlay
    rw [kept.exclusions] at inPlay
    rw [current, sends, count]
    exact h.retrying key inPlay
  · intro key inPlay
    rw [kept.exclusions] at inPlay
    rw [current, sends]
    exact h.fresh key inPlay
  · rw [had, count]
    exact h.active
  · rw [count, request]
    exact h.below
  · rw [keys, kept.attemptCount, had]
    exact h.charged
  · rw [kept.maxAttempts, request]
    exact h.maxAttempts

/-- A fresh key starts an account of its own, unless another one is being retried. -/
theorem Accounted.focus {e : Execution} {key : String} (h : Accounted e)
    (inPlay : key ∉ e.controller.progress.actualAttemptExclusions)
    (retries : e.currentKeyHadOutboundAttempt → e.currentKeyId = some key) :
    Accounted (e.focus key) := by
  unfold Execution.focus
  by_cases current : e.currentKeyId = some key
  · rw [if_pos current]
    exact h
  rw [if_neg current]
  have idle : e.currentKeyHadOutboundAttempt = false := by
    cases had : e.currentKeyHadOutboundAttempt with
    | false => rfl
    | true => exact absurd (retries had) current
  have none : e.currentKeyRetryCount = 0 := by
    by_contra positive
    have := h.active.mpr (Nat.pos_of_ne_zero positive)
    rw [idle] at this
    cases this
  refine ⟨?_, ?_, ?_, ?_, ?_, h.maxAttempts⟩
  · intro other _ same
    cases same
    exact h.fresh key inPlay current
  · intro other otherInPlay _
    by_cases same : e.currentKeyId = some other
    · exact (h.retrying other otherInPlay same).trans none
    · exact h.fresh other otherInPlay same
  · simp
  · exact (Nat.zero_le _).trans_lt h.below
  · have charged := h.charged
    rw [idle] at charged
    exact charged

theorem Accounted.taken {e : Execution} {t : Turn} {route : SelectedRoute} (h : Accounted e)
    (bounded : Bounded e) (retries : e.RetriesKey t) (picks : e.Picks t route) :
    Taken (e.picked t route.candidate) route.candidate.stationKeyId := by
  have choice := picks.choice
  have kept := RouteAdmissionCoordinator.next_kept e.controller (e.input t)
  have asked : Accounted (e.asked t) := h.of_kept kept rfl rfl rfl rfl rfl
  have inPlay : route.candidate.stationKeyId ∉
      (e.asked t).controller.progress.actualAttemptExclusions := by
    rw [show (e.asked t).controller.progress.actualAttemptExclusions = _ from kept.exclusions]
    exact choice.inPlay
  refine { asked.focus inPlay (retries route picks), bounded.picked t route.candidate with
    current := ?_, inPlay := ?_, free := ?_ }
  · unfold picked Execution.focus
    split
    · assumption
    · rfl
  · rw [choice.kept.exclusions]
    exact choice.inPlay
  · rw [choice.kept.attemptCount, picked_request, ← h.maxAttempts]
    exact choice.budget

theorem sent_sends (e : Execution) (candidate : RoutePlanCandidate)
    (failure : Option (ProxyFailure × RetryAction)) (key : String) :
    (e.sent candidate failure).sends key =
      e.sends key + if candidate.stationKeyId = key then 1 else 0 := by
  rw [sends, sent, List.map_append, List.count_append]
  show _ + List.count key [candidate.stationKeyId] = _
  rw [List.count_singleton]
  simp only [beq_iff_eq]
  rfl

theorem sent_keys (e : Execution) (candidate : RoutePlanCandidate)
    (failure : Option (ProxyFailure × RetryAction)) :
    (e.sent candidate failure).keys = insert candidate.stationKeyId e.keys := by
  rw [keys, sent, List.map_append, List.toFinset_append]
  show _ ∪ {candidate.stationKeyId} = _
  rw [Finset.union_comm]
  rfl

section Taken
variable {e : Execution} {candidate : RoutePlanCandidate}
  (failure : Option (ProxyFailure × RetryAction)) (h : Taken e candidate.stationKeyId)
include h

/-- A key that is retried is one of the keys already. -/
theorem Taken.sent_keys_card :
    (e.sent candidate failure).keys.card ≤ e.controller.progress.attemptCount + 1 := by
  rw [sent_keys]
  have charged := h.charged
  by_cases had : e.currentKeyHadOutboundAttempt
  · have member : candidate.stationKeyId ∈ e.keys := by
      rw [mem_keys, h.retrying _ h.inPlay h.current]
      exact h.active.mp had
    rw [Finset.insert_eq_of_mem member]
    simpa [had] using charged
  · have card := Finset.card_insert_le candidate.stationKeyId e.keys
    rw [if_neg had] at charged
    omega

/-- The attempt is within the budget. -/
theorem Taken.sent_bounded : Bounded (e.sent candidate failure) := by
  refine ⟨(h.sent_keys_card failure).trans h.free, fun key => ?_⟩
  rw [sent_sends]
  by_cases same : candidate.stationKeyId = key
  · subst same
    rw [if_pos rfl, h.retrying _ h.inPlay h.current]
    exact h.below
  · rw [if_neg same]
    exact h.sends key

theorem Taken.sent_fresh {key : String} (inPlay : key ∉ e.controller.progress.actualAttemptExclusions)
    (other : candidate.stationKeyId ≠ key) : (e.sent candidate failure).sends key = 0 := by
  rw [sent_sends, if_neg other, Nat.add_zero]
  refine h.fresh key inPlay ?_
  rw [h.current]
  exact fun same => other (Option.some.inj same)

/-- The key stays the current one, and its counter says one more. -/
theorem Taken.retried (again : e.currentKeyRetryCount + 1 <
      e.request.attemptBudget.consecutiveFailureThreshold) (lastFailure : ProxyFailure) :
    Accounted ((e.sent candidate failure).retried lastFailure) := by
  refine ⟨?_, ?_, ?_, again, ?_, h.maxAttempts⟩
  · intro key inPlay current
    have same : candidate.stationKeyId = key := Option.some.inj (h.current.symm.trans current)
    show (e.sent candidate failure).sends key = e.currentKeyRetryCount + 1
    rw [sent_sends, if_pos same, h.retrying key inPlay current]
  · intro key inPlay notCurrent
    refine h.sent_fresh failure inPlay fun same => notCurrent ?_
    exact same ▸ h.current
  · exact iff_of_true rfl (Nat.succ_pos _)
  · exact h.sent_keys_card failure

end Taken

/-- A key that is left is charged to the count of keys. -/
theorem Taken.excluded {e e' : Execution} {key : String} (h : Taken e key)
    (keys : e'.keys.card ≤ e.controller.progress.attemptCount + 1)
    (sends : ∀ other ∉ e.controller.progress.actualAttemptExclusions,
      key ≠ other → e'.sends other = 0)
    (exclusions : e'.controller.progress.actualAttemptExclusions =
      insert key e.controller.progress.actualAttemptExclusions)
    (count : e'.controller.progress.attemptCount =
      saturatingSucc e.controller.progress.attemptCount)
    (maxAttempts : e'.controller.maxAttempts = e.controller.maxAttempts)
    (request : e'.request = e.request) (idle : e'.currentKeyRetryCount = 0)
    (none : e'.currentKeyId = none) (had : e'.currentKeyHadOutboundAttempt = false)
    (small : e.request.attemptBudget.maxTotalAttempts < 2 ^ 32) : Accounted e' := by
  refine ⟨?_, ?_, ?_, ?_, ?_, ?_⟩
  · intro other _ current
    rw [none] at current
    cases current
  · intro other inPlay _
    rw [exclusions, Finset.mem_insert, not_or] at inPlay
    exact sends other inPlay.2 (Ne.symm inPlay.1)
  · simp [had, idle]
  · rw [idle, request]
    exact (Nat.zero_le _).trans_lt h.below
  · have free := h.free
    rw [count, had, saturatingSucc, Nat.min_eq_left (by omega)]
    exact keys
  · rw [maxAttempts, request]
    exact h.maxAttempts

theorem recordActualTerminal_progress (c : RouteAdmissionCoordinator) (key identity : String)
    (outcome : ActualAttemptTerminal) :
    (c.recordActualTerminalForStationKey key identity outcome).1.progress =
        c.progress.recordActualAttempt key ∧
      (c.recordActualTerminalForStationKey key identity outcome).1.maxAttempts =
        c.maxAttempts := by
  unfold RouteAdmissionCoordinator.recordActualTerminalForStationKey
  dsimp only
  split <;> exact ⟨rfl, rfl⟩

/-- A denied key is left out; one that was being retried is charged. -/
theorem Taken.denied {e : Execution} {key : String} (h : Taken e key)
    (small : e.request.attemptBudget.maxTotalAttempts < 2 ^ 32) : Accounted (e.denied key) := by
  have fresh : ∀ other ∉ e.controller.progress.actualAttemptExclusions, key ≠ other →
      e.sends other = 0 := by
    intro other inPlay ne
    refine h.fresh other inPlay ?_
    rw [h.current]
    exact fun same => ne (Option.some.inj same)
  by_cases had : e.currentKeyHadOutboundAttempt
  · have controller : (e.denied key).controller = e.controller.excludeAttemptedKey key :=
      if_pos ⟨h.current, had⟩
    have charged := h.charged
    rw [if_pos had] at charged
    exact h.excluded charged fresh (by rw [controller]; rfl) (by rw [controller]; rfl)
      (by rw [controller]; rfl) rfl rfl rfl rfl small
  · have controller : (e.denied key).controller = e.controller.excludeStationKey key :=
      if_neg fun both => had both.2
    have attemptCount : (e.denied key).controller.progress.attemptCount =
        e.controller.progress.attemptCount := by
      rw [controller, RouteAdmissionCoordinator.excludeStationKey]
      split <;> rfl
    have maxAttempts : (e.denied key).controller.maxAttempts = e.controller.maxAttempts := by
      rw [controller, RouteAdmissionCoordinator.excludeStationKey]
      split <;> rfl
    have exclusions : e.controller.progress.actualAttemptExclusions ⊆
        (e.denied key).controller.progress.actualAttemptExclusions := by
      rw [controller, RouteAdmissionCoordinator.excludeStationKey]
      split
      · exact Finset.Subset.refl _
      · exact Finset.subset_insert _ _
    refine ⟨nofun, ?_, by simp [Execution.denied], ?_, ?_, maxAttempts.trans h.maxAttempts⟩
    · intro other inPlay _
      have before := fun member => inPlay (exclusions member)
      by_cases same : key = other
      · -- a key that could not be left out was not attempted either
        subst same
        refine (h.retrying key before h.current).trans ?_
        by_contra positive
        exact had (h.active.mpr (Nat.pos_of_ne_zero positive))
      · exact fresh other before same
    · exact (Nat.zero_le _).trans_lt h.below
    · have charged := h.charged
      rw [if_neg had] at charged
      rw [attemptCount]
      exact charged

theorem Taken.left {e : Execution} {candidate : RoutePlanCandidate}
    (h : Taken e candidate.stationKeyId)
    (small : e.request.attemptBudget.maxTotalAttempts < 2 ^ 32)
    (sent : Option (ProxyFailure × RetryAction)) (failure : ProxyFailure) (action : RetryAction) :
    Accounted (((e.sent candidate sent).left candidate failure action).advanced failure) := by
  obtain ⟨progress, maxAttempts⟩ := recordActualTerminal_progress e.controller
    candidate.stationKeyId candidate.routingIdentity (actualTerminalForAction failure action)
  exact h.excluded (h.sent_keys_card sent) (fun other => h.sent_fresh sent)
    (congrArg RouteProgress.actualAttemptExclusions progress)
    (congrArg RouteProgress.attemptCount progress) maxAttempts rfl rfl rfl rfl small

theorem Bounded.of_ended {e e' : Execution} (h : Bounded e) (ended : Ended e e') : Bounded e' := by
  refine ⟨?_, fun key => ?_⟩
  · rw [Execution.keys, ended.attempts, ended.request]
    exact h.keys
  · rw [Execution.sends, ended.attempts, ended.request]
    exact h.sends key

/-- A key is retried while its counter is below the threshold. -/
theorem retryAction_below {e : Execution} {t : Turn} {failure : ProxyFailure} {leased : Bool}
    (kind : (e.retryAction t failure leased).kind = .retryCurrentKey) :
    e.currentKeyRetryCount + 1 < e.request.attemptBudget.consecutiveFailureThreshold := by
  have goesOn : (e.retryAction t failure leased).kind ≠ .stopRequest := by simp [kind]
  have left : 0 < if leased then 0 else
      e.request.attemptBudget.consecutiveFailureThreshold - (e.currentKeyRetryCount + 1) :=
    (planWithContext_goesOn goesOn).retries kind
  cases leased with
  | true => exact absurd left (lt_irrefl 0)
  | false =>
    rw [if_neg Bool.false_ne_true] at left
    omega

theorem pass_accounted {e e' : Execution} {t : Turn} (passes : Passes e t e')
    (retries : e.RetriesKey t) (bounded : Bounded e) (h : Running e → Accounted e) :
    Bounded e' ∧ (Running e' → Accounted e') := by
  have small : ∀ candidate,
      (e.picked t candidate).request.attemptBudget.maxTotalAttempts < 2 ^ 32 := by
    intro candidate
    have := (attemptBudget_valid (e.picked t candidate).request).2.1
    omega
  cases passes with
  | finished => exact ⟨bounded, h⟩
  | stops running ended =>
    exact ⟨bounded.of_ended ended, fun goesOn => absurd goesOn (ended_not_running ended)⟩
  | ends route failure runs picks ended =>
    have taken := (h runs.running).taken bounded retries picks
    exact ⟨(taken.sent_bounded failure).of_ended ended,
      fun goesOn => absurd goesOn (ended_not_running ended)⟩
  | replans transition snapshots runs =>
    have kept := RouteAdmissionCoordinator.next_kept e.controller (e.input t)
    exact ⟨⟨bounded.keys, bounded.sends⟩, fun _ =>
      (h runs.running).of_kept kept rfl rfl rfl rfl rfl⟩
  | fences route snapshots runs picks =>
    have taken := (h runs.running).taken bounded retries picks
    refine ⟨⟨taken.keys, taken.sends⟩, fun _ => ?_⟩
    exact taken.toAccounted.of_kept (.refl _) rfl rfl rfl rfl rfl
  | denies route runs picks =>
    have taken := (h runs.running).taken bounded retries picks
    exact ⟨⟨taken.keys, taken.sends⟩, fun _ => taken.denied (small _)⟩
  | retries route failure leased runs picks kind =>
    have taken := (h runs.running).taken bounded retries picks
    have bounded := taken.sent_bounded (some (failure,
      (e.picked t route.candidate).retryAction t failure leased))
    exact ⟨⟨bounded.keys, bounded.sends⟩, fun _ =>
      taken.retried _ (retryAction_below kind) failure⟩
  | moves route failure leased runs picks kind =>
    have taken := (h runs.running).taken bounded retries picks
    have bounded := taken.sent_bounded (some (failure,
      (e.picked t route.candidate).retryAction t failure leased))
    exact ⟨⟨bounded.keys, bounded.sends⟩, fun _ => taken.left (small _) _ failure _⟩

/-- The loop ends; and in every run in which a key that is being retried is the next
one taken, the attempted keys are within the distinct-key budget and none of them is
attempted more often than the failure threshold. -/
theorem attempts_bounded (request : ExecuteRequest) (turns : List Turn) :
    (Running (run pass (start request) turns) →
      turns.countP (!·.waits) ≤ 47 ∧ ∀ t ∈ turns, t.deadlineLeft) ∧
    (Along pass RetriesKey (start request) turns →
      (run pass (start request) turns).keys.card ≤ request.attemptBudget.maxTotalAttempts ∧
      ∀ key, (run pass (start request) turns).sends key ≤
        request.attemptBudget.consecutiveFailureThreshold) := by
  refine ⟨loop_ends request turns, fun retries => ?_⟩
  have preserved : ∀ e t, RetriesKey e t →
      (Bounded e ∧ (Running e → Accounted e)) ∧ e.request = request →
      (Bounded (pass e t) ∧ (Running (pass e t) → Accounted (pass e t))) ∧
        (pass e t).request = request := by
    intro e t retries ⟨⟨bounded, accounted⟩, same⟩
    exact ⟨pass_accounted (pass_cases e t) retries bounded accounted,
      (pass_request (pass_cases e t)).trans same⟩
  have initially : (Bounded (start request) ∧ (Running (start request) →
      Accounted (start request))) ∧ (start request).request = request := by
    have positive := (attemptBudget_valid request).2.2
    refine ⟨⟨⟨Nat.zero_le _, fun _ => Nat.zero_le _⟩, fun _ => ?_⟩, rfl⟩
    exact ⟨nofun, fun _ _ _ => rfl, by simp [start], positive, Nat.zero_le _, rfl⟩
  obtain ⟨⟨bounded, -⟩, same⟩ := run_invariant_along preserved initially retries
  have keys := bounded.keys
  have sends := bounded.sends
  rw [same] at keys sends
  exact ⟨keys, sends⟩

/-! ### Fixed requests -/

/-- Three keys, and a policy that allows one of them to be tried, three times. -/
def threeKeys : RouteSnapshots where
  planning := { plainSnapshot none [plainKey "a" [], plainKey "b" [], plainKey "c" []] with
    attemptBudget := ⟨1, 1, 0, 0, 3, 2, 30000⟩ }
  targets := [⟨"a", 1, 0, 1⟩, ⟨"b", 1, 0, 1⟩, ⟨"c", 1, 0, 1⟩]
  wellFormed := ⟨by decide +kernel, by decide +kernel⟩
  valid := by decide +kernel
  budget := by decide +kernel

def threeKeysRequest : ExecuteRequest := ⟨true, 1000, [], threeKeys⟩

/-- An attempt that is rate limited, while others hold the capacity of some keys. -/
def limitedTurn (busy : List String) : Turn :=
  { plainTurn threeKeys with
    attempt := .error rateLimited
    active := fun _ constraint =>
      match constraint with
      | .stationKey key => if key ∈ busy then 1 else 0
      | _ => 0 }

/-- The key is attempted three times and left. -/
theorem attempts_bounded_retries :
    let turns := [limitedTurn [], limitedTurn [], limitedTurn []]
    (run pass (start threeKeysRequest) turns).sends "a" = 3 ∧
      (run pass (start threeKeysRequest) turns).keys.card ≤ 1 := by
  have retries : Along pass RetriesKey (start threeKeysRequest)
      [limitedTurn [], limitedTurn [], limitedTurn []] :=
    ⟨by decide +kernel, by decide +kernel, by decide +kernel, trivial⟩
  exact ⟨by decide +kernel, ((attempts_bounded threeKeysRequest _).2 retries).1⟩

/-- Between its retries the capacity of a key is taken by others, and the request
turns to another key: three keys where one is allowed. -/
theorem busy_key_uncharged :
    ¬∀ (request : ExecuteRequest) (turns : List Turn),
      (run pass (start request) turns).keys.card ≤ request.attemptBudget.maxTotalAttempts := by
  intro always
  have bound := always threeKeysRequest
    [limitedTurn [], limitedTurn ["a"], limitedTurn ["a", "b"]]
  exact absurd bound (by decide +kernel)

end Execution

end RelayPool.Routing
