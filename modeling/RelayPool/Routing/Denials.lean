import RelayPool.Routing.Budget
import RelayPool.Routing.Steady

/-! Keys whose circuit turns the request away.

A denied key is left out without an attempt, but the denial marks the shared
runtime as changed, so the next pass replans, and the replans of a request are
counted. So are those that other requests force by their own changes. The main result
is `denied_keys_skipped`: a request reaches the healthy key behind the denied ones, or
finds that no key is left, exactly when it may replan as often as it has to. -/
namespace RelayPool.Routing
open Runs

/-- The two answers of a circuit that is not ready for an attempt. -/
inductive CircuitAdmissionResult.Denies : CircuitAdmissionResult → Prop where
  | openCooldown : Denies .deniedOpenCooldown
  | halfOpenLease : Denies .deniedHalfOpenLease

inductive CircuitAdmissionResult.Allows : CircuitAdmissionResult → Prop where
  | closed : Allows .allowedClosed
  | halfOpen (leaseRevision : Nat) : Allows (.allowedHalfOpen leaseRevision)

namespace Execution

/-- The circuit of the key that is taken answers as `circuits` has it. -/
def Answers (circuits : String → CircuitAdmissionResult) (e : Execution) (t : Turn) : Prop :=
  e.result = none → ∀ route, e.Picks t route → t.circuit = .ok (circuits route.candidate.stationKeyId)

/-- The key of the target that is taken, if one is. -/
def pickedKey (e : Execution) (t : Turn) : Option String :=
  match e.decision t with
  | .ok (.selected route) => some route.candidate.stationKeyId
  | _ => none

theorem pickedKey_eq_some {e : Execution} {t : Turn} {key : String} :
    e.pickedKey t = some key ↔ ∃ route, e.Picks t route ∧ route.candidate.stationKeyId = key := by
  unfold pickedKey Picks
  split
  · rename_i route eq
    simp [eq]
  · rename_i other
    constructor
    · nofun
    · rintro ⟨route, picks, -⟩
      exact absurd picks (other route)

instance (circuits : String → CircuitAdmissionResult) (e : Execution) (t : Turn) :
    Decidable (e.Answers circuits t) :=
  decidable_of_iff (e.result = none → ∀ key ∈ e.pickedKey t, t.circuit = .ok (circuits key))
    ⟨fun h running route picks => h running _ (pickedKey_eq_some.mpr ⟨route, picks, rfl⟩),
      fun h running key picked => by
        obtain ⟨route, picks, rfl⟩ := pickedKey_eq_some.mp picked
        exact h running route picks⟩

end Execution

/-! ### The request before the first attempt -/

namespace Execution

/-- The request before its first attempt: the keys in `left` have turned it away, and
it has replanned `replans` times. -/
structure Unsent (request : ExecuteRequest) (left : Finset String) (replans : Nat)
    (e : Execution) : Prop where
  running : e.result = none
  attempts : e.attempts = []
  lastFailure : e.lastFailure = none
  attemptIndex : e.attemptIndex = 0
  keyUnsent : e.currentKeyHadOutboundAttempt = false
  replanCount : e.replanCount = replans
  rebuilds : e.controller.progress.runtimeRebuildCount = replans
  configuration : SameConfiguration request.initial e.snapshots
  controller : Unhindered request left 0 e.controller
  same : e.request = request

/-- The coordinator has seen the runtime as it is. -/
def Fresh (e : Execution) : Prop := e.controller.runtimeOverlayRevision = e.runtimeRevision

section Steps
variable {request : ExecuteRequest} {circuits : String → CircuitAdmissionResult}
  {keys : List String} {left : Finset String} {replans : Nat} {e : Execution} {t : Turn}
  {p : PlannedCandidate}

theorem unsent_start (configuration : SameConfiguration request.initial request.initial) :
    Unsent request ∅ 0 (start request) ∧ Fresh (start request) :=
  ⟨⟨rfl, rfl, rfl, rfl, rfl, rfl, rfl, configuration, .new request _, rfl⟩, rfl⟩

theorem Unsent.runs (h : Unsent request left replans e) (steady : Steady request keys t) :
    e.Runs t := by
  refine ⟨h.running, ?_, steady.deadlineLeft⟩
  rw [h.attemptIndex]
  exact Nat.lt_of_lt_of_le Nat.zero_lt_one (Nat.le_max_left 1 _)

theorem Unsent.asked (h : Unsent request left replans e) (fresh : Fresh e)
    (steady : Steady request keys t) (quiet : t.runtimeChanges = 0) :
    Asked request e.controller (e.input t) e.snapshots where
  asks := ⟨rfl, rfl, rfl⟩
  inTime := steady.inTime
  current := by
    show e.runtimeRevision + t.runtimeChanges = _
    rw [quiet, fresh]
    rfl
  configuration := h.configuration

/-- The request takes the first key that is not left out. -/
theorem Unsent.picks (h : Unsent request left replans e) (fresh : Fresh e)
    (steady : Steady request keys t) (quiet : t.runtimeChanges = 0)
    (settled : Settled request.initial)
    (first : request.initial.planning.first left = some p) (listed : p.stationKeyId ∈ keys)
    (rankZero : RankZeroFirst request.initial.planning) (led : Led request.initial.planning left) :
    ∃ route, e.Picks t route ∧ route.candidate.stationKeyId = p.stationKeyId ∧
      (e.picked t route.candidate).controller = e.controller.noted e.snapshots.planning := by
  obtain ⟨route, answer, key⟩ := h.controller.next_takes (h.asked fresh steady quiet) settled first
    (attemptBudget_valid request).1 rankZero led (steady.capacity _ listed)
  exact ⟨route, congrArg Prod.snd answer, key,
    (e.picked_controller t _).trans (congrArg Prod.fst answer)⟩

/-- The picked state has sent nothing either. -/
theorem Unsent.picked (h : Unsent request left replans e) {candidate : RoutePlanCandidate}
    (controller : (e.picked t candidate).controller = e.controller.noted e.snapshots.planning) :
    Unsent request left replans (e.picked t candidate) where
  running := (e.picked_result t candidate).trans h.running
  attempts := (e.picked_attempts t candidate).trans h.attempts
  lastFailure := by
    unfold Execution.picked focus
    split <;> exact h.lastFailure
  attemptIndex := (e.picked_attemptIndex t candidate).trans h.attemptIndex
  keyUnsent := by
    unfold Execution.picked focus
    split
    · exact h.keyUnsent
    · rfl
  replanCount := (e.picked_replanCount t candidate).trans h.replanCount
  rebuilds := by
    rw [controller]
    exact h.rebuilds
  configuration := by
    rw [picked_snapshots]
    exact h.configuration
  controller := by
    rw [controller]
    exact h.controller.noted _
  same := (e.picked_request t candidate).trans h.same

/-- A denied key is left out; nothing was sent. -/
theorem Unsent.denied (h : Unsent request left replans e) {key : String} (named : key ≠ "") :
    Unsent request (insert key left) replans (e.denied key) := by
  have controller : (e.denied key).controller = e.controller.excludeStationKey key := by
    unfold Execution.denied
    rw [h.keyUnsent]
    simp
  refine ⟨h.running, h.attempts, h.lastFailure, h.attemptIndex, rfl, h.replanCount, ?_,
    h.configuration, ?_, h.same⟩
  · rw [controller]
    unfold RouteAdmissionCoordinator.excludeStationKey
    rw [if_neg named]
    exact h.rebuilds
  · rw [controller]
    exact h.controller.excluded named

theorem lt_of_behind (h : e.behind = 1) :
    e.controller.runtimeOverlayRevision < e.runtimeRevision := by
  unfold behind at h
  split at h
  · assumption
  · cases h

/-- A pass that takes a key whose circuit denies it leaves the key out, and its view
of the runtime behind. -/
theorem pass_skips (h : Unsent request left replans e) (fresh : Fresh e)
    (steady : Steady request keys t) (quiet : t.runtimeChanges = 0)
    (settled : Settled request.initial)
    (first : request.initial.planning.first left = some p) (listed : p.stationKeyId ∈ keys)
    (rankZero : RankZeroFirst request.initial.planning) (led : Led request.initial.planning left)
    (answers : e.Answers circuits t) (denies : (circuits p.stationKeyId).Denies) :
    Unsent request (insert p.stationKeyId left) replans (e.pass t) ∧
      (e.pass t).controller.runtimeOverlayRevision < (e.pass t).runtimeRevision := by
  obtain ⟨route, picks, key, controller⟩ :=
    h.picks fresh steady quiet settled first listed rankZero led
  have circuit := answers h.running route picks
  rw [key] at circuit
  have passed : e.pass t =
      (e.picked t route.candidate).denied route.candidate.stationKeyId := by
    rw [pass_of_picks (h.runs steady) picks, admitted, circuit]
    generalize circuits p.stationKeyId = answer at denies
    cases denies <;> rfl
  rw [passed, ← key]
  refine ⟨(h.picked controller).denied ?_, lt_of_behind (denied_behind picks)⟩
  rw [key]
  exact named_of_first request.initial.valid first

/-- The view of the runtime is behind in this turn, by the request's own doing or others'. -/
def Stale (e : Execution) (t : Turn) : Prop :=
  e.runtimeRevision + t.runtimeChanges ≠ e.controller.runtimeOverlayRevision

/-- What the coordinator answers when its view of the runtime is behind. -/
theorem Unsent.next_replans (h : Unsent request left replans e) (stale : e.Stale t)
    (steady : Steady request keys t) (few : replans ≤ maxExecutionReplans) :
    e.controller.next (e.input t) =
      (e.controller.runtimeChanged (e.runtimeRevision + t.runtimeChanges),
        .ok (.replan .runtimeReplan)) := by
  refine Routing.next_replans h.controller.fallbackBlocked ?_ stale ?_
  · rw [h.controller.deadlineMs]
    exact steady.inTime
  · rw [h.rebuilds]
    unfold maxExecutionReplans at few
    unfold RouteAdmissionCoordinator.maxRuntimeOnlyReplans
    omega

/-- A pass whose view is behind replans, as long as the request may. -/
theorem pass_replans (h : Unsent request left replans e) (stale : e.Stale t)
    (steady : Steady request keys t) (few : replans < maxExecutionReplans) :
    Unsent request left (replans + 1) (e.pass t) ∧ Fresh (e.pass t) := by
  obtain ⟨s, reload, configuration⟩ := steady.reload
  have few' : replans < 3 := few
  have answer := h.next_replans stale steady few.le
  have decision : e.decision t = .ok (.replan .runtimeReplan) := congrArg Prod.snd answer
  have asked : (e.asked t).controller = e.controller.runtimeChanged (e.runtimeRevision +
      t.runtimeChanges) := congrArg Prod.fst answer
  have passed : e.pass t = (e.asked t).replanned.withSnapshots s := by
    have left : ¬maxExecutionReplans ≤ (e.asked t).replanCount := by
      show ¬maxExecutionReplans ≤ e.replanCount
      rw [h.replanCount]
      exact Nat.not_le.mpr few
    rw [pass_of_replan (h.runs steady) decision, replan, if_neg left, reload]
  rw [passed]
  refine ⟨⟨h.running, h.attempts, h.lastFailure, h.attemptIndex, h.keyUnsent, ?_, ?_,
    configuration, ?_, h.same⟩, ?_⟩
  · show e.replanCount + 1 = _
    rw [h.replanCount]
  · show (e.asked t).controller.progress.runtimeRebuildCount = _
    rw [asked]
    show min (e.controller.progress.runtimeRebuildCount + 1) (2 ^ 32 - 1) = _
    rw [h.rebuilds]
    omega
  · show Unhindered request left 0 (e.asked t).controller
    rw [asked]
    exact h.controller.runtimeChanged _
  · show (e.asked t).controller.runtimeOverlayRevision = e.runtimeRevision + t.runtimeChanges
    rw [asked]
    rfl

/-- The request is over, and nothing was sent for it. -/
structure EndsUnsent (failure : ProxyFailure) (e : Execution) : Prop where
  result : e.result = some (.error failure)
  attempts : e.attempts = []

/-- A pass whose coordinator refuses ends a request that has sent nothing. -/
theorem pass_refused (h : Unsent request left replans e) (steady : Steady request keys t)
    {refused : AdmissionFailure} (decision : e.decision t = .error refused) :
    EndsUnsent (controllerFailure refused) (e.pass t) := by
  rw [pass_of_refused (h.runs steady) h.lastFailure decision]
  exact ⟨rfl, h.attempts⟩

/-- A pass whose view is behind ends a request that has used its replans. -/
theorem pass_replans_out (h : Unsent request left replans e) (stale : e.Stale t)
    (steady : Steady request keys t) (out : replans = maxExecutionReplans) :
    EndsUnsent (controllerFailure executionReplanLimitExceeded) (e.pass t) := by
  have decision : e.decision t = .ok (.replan .runtimeReplan) :=
    congrArg Prod.snd (h.next_replans stale steady out.le)
  have used : maxExecutionReplans ≤ (e.asked t).replanCount := by
    show _ ≤ e.replanCount
    rw [h.replanCount, out]
  rw [pass_of_replan (h.runs steady) decision, replan, if_pos used]
  exact ⟨rfl, h.attempts⟩

/-- Without a key that is not left out the request ends. -/
theorem pass_finds_none (h : Unsent request left replans e) (fresh : Fresh e)
    (steady : Steady request keys t) (quiet : t.runtimeChanges = 0)
    (settled : Settled request.initial)
    (some_ : request.initial.planning.candidates ≠ [])
    (none : request.initial.planning.first left = none) :
    EndsUnsent (controllerFailure (failure .noEligible "no_available_key")) (e.pass t) := by
  have answer := h.controller.next_without_key (h.asked fresh steady quiet) settled some_ none
  exact pass_refused h steady (congrArg Prod.snd answer)

/-- A fallback that waits for a rank-0 attempt which no key can make is refused. -/
theorem pass_waits_for_rankZero (h : Unsent request ∅ replans e) (fresh : Fresh e)
    (steady : Steady request keys t) (quiet : t.runtimeChanges = 0)
    (settled : Settled request.initial)
    (retry : request.initial.planning.modelFallbackTrigger = some .retryExhaustedBeforeOutput)
    (first : request.initial.planning.first ∅ = some p) (positive : 0 < p.targetRank) :
    EndsUnsent (controllerFailure (failure .noEligible "fallback_requires_rank_zero_attempt"))
      (e.pass t) := by
  have answer := h.controller.next_waits (h.asked fresh steady quiet) settled first retry positive
  exact pass_refused h steady (congrArg Prod.snd answer)

/-- An attempt whose preparation succeeds is in the record, whatever it answers. -/
theorem attempt_sends (preparation : t.preparation = .ok ()) (crossed : t.boundaryCrossed)
    (candidate : RoutePlanCandidate) (leased : Bool) :
    ∃ failure, (e.attempt t candidate leased).attempts =
      e.attempts ++ [e.outbound candidate failure] := by
  unfold Execution.attempt
  rw [preparation, crossed]
  dsimp only
  cases t.attempt with
  | ok u => exact ⟨none, (succeeded_ended (e.sent candidate none) candidate).attempts⟩
  | error failure =>
    refine ⟨some (failure, e.retryAction t failure leased), ?_⟩
    rcases @follow_cases (e.sent candidate (some (failure, e.retryAction t failure leased))) t
        candidate failure (e.retryAction t failure leased) with ended | ⟨-, eq⟩ | ⟨-, eq⟩
    · exact ended.attempts
    · exact congrArg Execution.attempts eq
    · exact congrArg Execution.attempts eq

/-- A pass that takes a key whose circuit allows the attempt sends it. -/
theorem pass_reaches (h : Unsent request left replans e) (fresh : Fresh e)
    (steady : Steady request keys t) (quiet : t.runtimeChanges = 0)
    (settled : Settled request.initial)
    (first : request.initial.planning.first left = some p) (listed : p.stationKeyId ∈ keys)
    (rankZero : RankZeroFirst request.initial.planning) (led : Led request.initial.planning left)
    (answers : e.Answers circuits t) (allows : (circuits p.stationKeyId).Allows) :
    p.stationKeyId ∈ (e.pass t).keys := by
  obtain ⟨route, picks, key, -⟩ :=
    h.picks fresh steady quiet settled first listed rankZero led
  have circuit := answers h.running route picks
  rw [key] at circuit
  have passed : ∃ leased, e.pass t =
      (e.picked t route.candidate).attempt t route.candidate leased := by
    rw [pass_of_picks (h.runs steady) picks, admitted, circuit]
    generalize circuits p.stationKeyId = answer at allows
    cases allows with
    | closed => exact ⟨false, rfl⟩
    | halfOpen leaseRevision => exact ⟨true, rfl⟩
  obtain ⟨leased, passed⟩ := passed
  obtain ⟨failure, attempts⟩ := attempt_sends (e := e.picked t route.candidate) steady.preparation
    steady.boundaryCrossed route.candidate leased
  rw [passed, Execution.keys, attempts, ← key]
  simp [outbound]

end Steps

/-! ### Runs -/

theorem run_over {e : Execution} (finished : e.result.isSome) (turns : List Turn) :
    run pass e turns = e := by
  induction turns with
  | nil => rfl
  | cons t rest ih => rw [run_cons, pass, if_pos finished, ih]

/-- A request that is over stays as it ended. -/
theorem EndsUnsent.run {failure : ProxyFailure} {e : Execution} (h : EndsUnsent failure e)
    (turns : List Turn) : EndsUnsent failure (Runs.run pass e turns) := by
  have finished : e.result.isSome := by
    rw [h.result]
    rfl
  rw [run_over finished]
  exact h

theorem pass_keys (e : Execution) (t : Turn) : e.keys ⊆ (e.pass t).keys := by
  obtain ⟨added, attempts⟩ := pass_attempts (pass_cases e t)
  rw [Execution.keys, Execution.keys, attempts, List.map_append, List.toFinset_append]
  exact Finset.subset_union_left

theorem run_keys {e : Execution} {key : String} (sent : key ∈ e.keys) (turns : List Turn) :
    key ∈ (run pass e turns).keys :=
  have preserved : ∀ e t, key ∈ keys e → key ∈ (e.pass t).keys := fun e t h => pass_keys e t h
  run_invariant preserved sent turns

section Runs
variable {request : ExecuteRequest} {circuits : String → CircuitAdmissionResult}
  {keys : List String}

/-- What a run of the request meets: nothing but the circuits of the keys. -/
structure Meets (request : ExecuteRequest) (keys : List String)
    (circuits : String → CircuitAdmissionResult) (e : Execution) (turns : List Turn) : Prop where
  steady : ∀ t ∈ turns, Steady request keys t
  answers : Along pass (Answers circuits) e turns

theorem Meets.head {e : Execution} {t : Turn} {rest : List Turn}
    (h : Meets request keys circuits e (t :: rest)) :
    Steady request keys t ∧ e.Answers circuits t :=
  ⟨h.steady t (List.mem_cons_self ..), h.answers.1⟩

theorem Meets.tail {e : Execution} {t : Turn} {rest : List Turn}
    (h : Meets request keys circuits e (t :: rest)) :
    Meets request keys circuits (e.pass t) rest :=
  ⟨fun t' ht => h.steady t' (List.mem_cons_of_mem t ht), h.answers.2⟩

/-- A fallback that may not begin with the first target ends the request, before or after
the replans that others force on it. -/
theorem run_waits (settled : Settled request.initial)
    (retry : request.initial.planning.modelFallbackTrigger = some .retryExhaustedBeforeOutput)
    {p : PlannedCandidate} (first : request.initial.planning.first ∅ = some p)
    (positive : 0 < p.targetRank) {replans : Nat} {e : Execution} {turns : List Turn}
    (h : Unsent request ∅ replans e) (fresh : Fresh e) (within : replans ≤ maxExecutionReplans)
    (meets : Meets request keys circuits e turns)
    (enough : maxExecutionReplans - replans < turns.length) :
    ∃ failure, failure.code ≠ .routeNoAvailableKey ∧ EndsUnsent failure (run pass e turns) := by
  induction turns generalizing replans e with
  | nil => exact absurd enough (Nat.not_lt_zero _)
  | cons t rest ih =>
    obtain ⟨steady, -⟩ := meets.head
    rw [List.length_cons] at enough
    by_cases quiet : t.runtimeChanges = 0
    · have ended := pass_waits_for_rankZero h fresh steady quiet settled retry first positive
      exact ⟨_, by decide, ended.run rest⟩
    · have view : Views false _ e.runtimeRevision := fresh
      have stale : e.Stale t := view.stale (by simpa using quiet)
      rcases Nat.lt_or_eq_of_le within with few | out
      · obtain ⟨replanned, fresh⟩ := pass_replans h stale steady few
        exact ih replanned fresh few meets.tail (by omega)
      · exact ⟨_, by decide, (pass_replans_out h stale steady out).run rest⟩

variable (settled : Settled request.initial) (rankZero : RankZeroFirst request.initial.planning)
include settled rankZero

/-- Denied keys are skipped, while the request may replan: it comes to a pass that finds the
runtime as it was seen. -/
theorem run_skips {denied : List String} {left : Finset String} {replans : Nat} {behind : Bool}
    {e : Execution} {turns : List Turn} (h : Unsent request left replans e)
    (view : Views behind e.controller.runtimeOverlayRevision e.runtimeRevision)
    (led : Led request.initial.planning left)
    (order : request.initial.planning.InOrder left denied)
    (listed : ∀ key ∈ denied, key ∈ keys) (denies : ∀ key ∈ denied, (circuits key).Denies)
    (few : replans + forcedReplans denied.length behind (turns.map (·.runtimeChanges)) ≤
      maxExecutionReplans)
    (meets : Meets request keys circuits e turns)
    (enough : denied.length + (maxExecutionReplans - replans) < turns.length) :
    ∃ e' t later replans', run pass e turns = run pass e' (t :: later) ∧
      Meets request keys circuits e' (t :: later) ∧
      Unsent request (left ∪ denied.toFinset) replans' e' ∧ Fresh e' ∧ t.runtimeChanges = 0 ∧
      Led request.initial.planning (left ∪ denied.toFinset) := by
  induction turns generalizing denied left replans behind e with
  | nil => exact absurd enough (Nat.not_lt_zero _)
  | cons t rest ih =>
    obtain ⟨steady, answers⟩ := meets.head
    rw [List.map_cons, forcedReplans] at few
    rw [List.length_cons] at enough
    by_cases forced : (behind || t.runtimeChanges != 0) = true
    · rw [if_pos forced] at few
      have more : replans < maxExecutionReplans := by omega
      obtain ⟨replanned, fresh⟩ := pass_replans h (view.stale forced) steady more
      have view : Views false _ (e.pass t).runtimeRevision := fresh
      exact ih replanned view led order listed denies (by omega) meets.tail (by omega)
    · rw [if_neg forced] at few
      obtain ⟨fresh, quiet⟩ := view.fresh forced
      cases denied with
      | nil =>
        exact ⟨e, t, rest, replans, rfl, meets, by simpa using h, fresh, quiet, by simpa using led⟩
      | cons key denied =>
        rw [List.length_cons, if_neg (Nat.succ_ne_zero _), Nat.add_sub_cancel] at few
        obtain ⟨p, first, rfl⟩ := first_of_inOrder order
        obtain ⟨skipped, behind⟩ := pass_skips h fresh steady quiet settled first
          (listed _ (List.mem_cons_self ..)) rankZero led answers (denies _ (List.mem_cons_self ..))
        rw [List.length_cons] at enough
        have view : Views true _ (e.pass t).runtimeRevision := behind
        have later := ih skipped view (led.insert first) order.2
          (fun k hk => listed k (List.mem_cons_of_mem _ hk))
          (fun k hk => denies k (List.mem_cons_of_mem _ hk)) few meets.tail (by omega)
        rw [Finset.insert_union, ← Finset.union_insert, ← List.toFinset_cons] at later
        exact later

/-- One replan more than the request may make ends it. -/
theorem run_replans_out {denied : List String} {left : Finset String} {replans : Nat}
    {behind : Bool} {e : Execution} {turns : List Turn} (h : Unsent request left replans e)
    (view : Views behind e.controller.runtimeOverlayRevision e.runtimeRevision)
    (led : Led request.initial.planning left)
    (order : request.initial.planning.InOrder left denied)
    (listed : ∀ key ∈ denied, key ∈ keys) (denies : ∀ key ∈ denied, (circuits key).Denies)
    (within : replans ≤ maxExecutionReplans)
    (many : maxExecutionReplans <
      replans + forcedReplans denied.length behind (turns.map (·.runtimeChanges)))
    (meets : Meets request keys circuits e turns) :
    EndsUnsent (controllerFailure executionReplanLimitExceeded) (run pass e turns) := by
  induction turns generalizing denied left replans behind e with
  | nil => exact absurd many (Nat.not_lt.mpr within)
  | cons t rest ih =>
    obtain ⟨steady, answers⟩ := meets.head
    rw [List.map_cons, forcedReplans] at many
    by_cases forced : (behind || t.runtimeChanges != 0) = true
    · rw [if_pos forced] at many
      have stale := view.stale forced
      rcases Nat.lt_or_eq_of_le within with few | out
      · obtain ⟨replanned, fresh⟩ := pass_replans h stale steady few
        have view : Views false _ (e.pass t).runtimeRevision := fresh
        exact ih replanned view led order listed denies few (by omega) meets.tail
      · exact (pass_replans_out h stale steady out).run rest
    · rw [if_neg forced] at many
      obtain ⟨fresh, quiet⟩ := view.fresh forced
      cases denied with
      | nil => exact absurd many (Nat.not_lt.mpr within)
      | cons key denied =>
        rw [List.length_cons, if_neg (Nat.succ_ne_zero _), Nat.add_sub_cancel] at many
        obtain ⟨p, first, rfl⟩ := first_of_inOrder order
        obtain ⟨skipped, behind⟩ := pass_skips h fresh steady quiet settled first
          (listed _ (List.mem_cons_self ..)) rankZero led answers (denies _ (List.mem_cons_self ..))
        have view : Views true _ (e.pass t).runtimeRevision := behind
        exact ih skipped view (led.insert first) order.2
          (fun k hk => listed k (List.mem_cons_of_mem _ hk))
          (fun k hk => denies k (List.mem_cons_of_mem _ hk)) within many meets.tail

end Runs

/-- The request ended because no key was left for it. -/
def FindsNoKey (e : Execution) : Prop :=
  ∃ failure, e.result = some (.error failure) ∧ failure.code = .routeNoAvailableKey

theorem EndsUnsent.findsNoKey {failure : ProxyFailure} {e : Execution} (h : EndsUnsent failure e) :
    e.FindsNoKey ↔ failure.code = .routeNoAvailableKey := by
  unfold FindsNoKey
  rw [h.result]
  simp

theorem EndsUnsent.not_mem_keys {failure : ProxyFailure} {e : Execution}
    (h : EndsUnsent failure e) (key : String) : key ∉ e.keys := by
  unfold Execution.keys
  rw [h.attempts]
  simp

/-- A request whose keys are denied up to a healthy one or up to the last, and that
has too few replans or whose first target may not be taken, ends without an attempt. -/
theorem ends_unsent {request : ExecuteRequest} {circuits : String → CircuitAdmissionResult}
    {keys denied : List String} {turns : List Turn}
    (configuration : SameConfiguration request.initial request.initial)
    (settled : Settled request.initial)
    (order : request.initial.planning.InOrder ∅ denied)
    (listed : ∀ key ∈ denied, key ∈ keys) (denies : ∀ key ∈ denied, (circuits key).Denies)
    (meets : Meets request keys circuits (start request) turns)
    (enough : denied.length + maxExecutionReplans < turns.length)
    (blocked : ¬(forcedReplans denied.length false (turns.map (·.runtimeChanges)) ≤
      maxExecutionReplans ∧ RankZeroFirst request.initial.planning)) :
    ∃ failure, failure.code ≠ .routeNoAvailableKey ∧
      EndsUnsent failure (run pass (start request) turns) := by
  obtain ⟨unsent, fresh⟩ := unsent_start configuration
  by_cases rankZero : RankZeroFirst request.initial.planning
  · have many : maxExecutionReplans <
        0 + forcedReplans denied.length false (turns.map (·.runtimeChanges)) := by
      rw [Nat.zero_add]
      exact Nat.lt_of_not_le fun few => blocked ⟨few, rankZero⟩
    have view : Views false _ (start request).runtimeRevision := fresh
    exact ⟨_, by decide, run_replans_out settled rankZero unsent view (.inl rfl) order listed
      denies (Nat.zero_le _) many meets⟩
  · unfold RankZeroFirst at rankZero
    push Not at rankZero
    obtain ⟨retry, p, first, ranked⟩ := rankZero
    exact run_waits settled retry first (Nat.pos_of_ne_zero ranked) unsent fresh (Nat.zero_le _)
      meets (by omega)

def circuitTurn (answer : CircuitAdmissionResult) : Turn :=
  { plainTurn fiveKeys with circuit := .ok answer }

theorem circuitTurn_steady (keys : List String) (answer : CircuitAdmissionResult) :
    Steady fiveKeysRequest keys (circuitTurn answer) :=
  ⟨rfl, show (0 : Int) < 1000 by decide, ⟨fiveKeys, rfl, fiveKeys_same⟩,
    fun key _ => hasCapacity_of_idle key, rfl, rfl⟩

/-- The circuits of all keys but the last are open. -/
def lastHealthy (key : String) : CircuitAdmissionResult :=
  if key = "e" then .allowedClosed else .deniedOpenCooldown

/-- Another request, whose circuits deny it the first key. -/
def firstDenied (key : String) : CircuitAdmissionResult :=
  if key = "a" then .deniedHalfOpenLease else .allowedClosed

/-- The first key is denied, another request changes the runtime before the second is looked
at, and after two replans the second key is sent to. -/
def noisyTurns : List Turn :=
  [circuitTurn .deniedHalfOpenLease, circuitTurn .allowedClosed,
    { circuitTurn .allowedClosed with runtimeChanges := 1 }, circuitTurn .allowedClosed,
    circuitTurn .allowedClosed]

theorem noisyTurns_meet :
    Meets fiveKeysRequest (["a"] ++ ["b"]) firstDenied (start fiveKeysRequest) noisyTurns := by
  refine ⟨?_, by decide +kernel⟩
  have noisy : Steady fiveKeysRequest ["a", "b"]
      { circuitTurn .allowedClosed with runtimeChanges := 1 } := by
    obtain ⟨deadlineLeft, inTime, reload, capacity, preparation, crossed⟩ :=
      circuitTurn_steady ["a", "b"] .allowedClosed
    exact ⟨deadlineLeft, inTime, reload, capacity, preparation, crossed⟩
  simp [noisyTurns, circuitTurn_steady, noisy]

end Execution

end RelayPool.Routing
