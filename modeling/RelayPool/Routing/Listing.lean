import RelayPool.Routing.Budget
import RelayPool.Routing.Catalog

/-! The list of all models.

In a steady configuration the listing collects the catalogs of the keys in planning
order. Each catalog marks the runtime as changed and costs a replan, unless the
attempts are used up with it, and so does a change that other requests make. The main
result is `models_listed`: the listing returns what the catalogs of the first keys list,
exactly when it may replan as often as it has to and there is anything to list. -/
namespace RelayPool.Routing
open Runs Distinct

namespace ModelsExecution

/-- The pass takes a target. -/
def Picks (e : ModelsExecution) (t : CatalogTurn) (route : SelectedRoute) : Prop :=
  e.decision t = .ok (.selected route)

/-- The key that is taken delivers its catalog. -/
structure Delivers (catalogs : String → List Json) (t : CatalogTurn) (key : String) : Prop where
  circuit : t.circuit = .ok .allowedClosed ∨ ∃ revision, t.circuit = .ok (.allowedHalfOpen revision)
  inTime : t.timedOut = false
  attempt : t.attempt = .ok ()
  body : t.body.answer = .items (catalogs key)
  finishAttempt : t.finishAttempt = .ok ()

/-- Every key that is taken delivers its catalog. -/
def Catalogs (catalogs : String → List Json) (e : ModelsExecution) (t : CatalogTurn) : Prop :=
  e.result = none → ∀ route, e.Picks t route → Delivers catalogs t route.candidate.stationKeyId

/-! ### Collecting -/

theorem collect_eq (e : ModelsExecution) (items : List Json) :
    e.collect items = { e with
      seenIds := e.seenIds ∪ keysOf Json.modelId items
      models := e.models ++ firsts Json.modelId e.seenIds items } := by
  induction items generalizing e with
  | nil => simp [collect, keysOf, firsts]
  | cons item rest ih =>
    show (e.collectItem item).collect rest = _
    rw [ih]
    unfold collectItem
    cases id : item.modelId with
    | none => rw [keysOf_cons_none id, firsts, id]
    | some id' =>
      rw [keysOf_cons_some id, firsts, id]
      dsimp only
      split
      · rename_i known
        rw [Finset.union_insert, Finset.insert_eq_of_mem (Finset.mem_union_left _ known)]
      · dsimp only
        rw [Finset.insert_union, ← Finset.union_insert, List.append_assoc, List.singleton_append]

/-- The listing after some catalogs, none of which failed: their keys are left out,
and their items are collected. -/
structure Collecting (request : ExecuteRequest) (left : Finset String) (count : Nat)
    (items : List Json) (replans : Nat) (e : ModelsExecution) : Prop where
  running : e.result = none
  attemptIndex : e.attemptIndex = count
  attemptedCount : e.attemptedCount = count
  failedCount : e.failedCount = 0
  lastFailure : e.lastFailure = none
  replanCount : e.replanCount = replans
  rebuilds : e.controller.progress.runtimeRebuildCount = replans
  models : e.models = firsts Json.modelId ∅ items
  seenIds : e.seenIds = keysOf Json.modelId items
  policy : e.controller.fallbackPolicy = ⟨true, false⟩
  configuration : SameConfiguration request.initial e.snapshots
  controller : Unhindered request left count e.controller
  same : e.request = request

/-- The coordinator has seen the runtime as it is. -/
def Fresh (e : ModelsExecution) : Prop :=
  e.controller.runtimeOverlayRevision = e.runtimeRevision

/-- The listing is over with these items: their distinct models, or that there is none. -/
def Lists (items : List Json) (count : Nat) (e : ModelsExecution) : Prop :=
  e.result = some (if (firsts Json.modelId ∅ items).isEmpty then .error internalFailure
    else .ok ⟨firsts Json.modelId ∅ items, 0, count⟩)

/-- The listing is over with a failure. -/
def Fails (e : ModelsExecution) : Prop := ∃ failure, e.result = some (.error failure)

section Steps
variable {request : ExecuteRequest} {catalogs : String → List Json} {keys : List String}
  {left : Finset String} {count replans : Nat} {items : List Json} {e : ModelsExecution}
  {t : CatalogTurn} {p : PlannedCandidate}

theorem collecting_start (configuration : SameConfiguration request.initial request.initial) :
    Collecting request ∅ 0 [] 0 (start request) ∧ Fresh (start request) :=
  ⟨⟨rfl, rfl, rfl, rfl, rfl, rfl, rfl, rfl, rfl, rfl, configuration, .new request _, rfl⟩, rfl⟩

theorem Collecting.asked (h : Collecting request left count items replans e) (fresh : Fresh e)
    (steady : Steady request keys t.toTurn) (quiet : t.runtimeChanges = 0) :
    Asked request e.controller (e.input t) e.snapshots where
  asks := ⟨rfl, rfl, rfl⟩
  inTime := steady.inTime
  current := by
    show e.runtimeRevision + t.runtimeChanges = _
    rw [quiet, fresh]
    rfl
  configuration := h.configuration

/-- The loop ends with what was collected. -/
theorem Collecting.finish (h : Collecting request left count items replans e) :
    Lists items count e.finish := by
  unfold ModelsExecution.finish Lists
  rw [h.models, h.lastFailure, h.failedCount, h.attemptedCount]
  split <;> rfl

/-- A pass that is entered. -/
theorem pass_of_decision (h : Collecting request left count items replans e)
    (within : count < e.attemptLimit) (steady : Steady request keys t.toTurn) :
    e.pass t = e.follow t (e.decision t) := by
  have undecided : ¬e.result.isSome := by simp [h.running]
  have within : ¬e.attemptLimit ≤ e.attemptIndex := by
    rw [h.attemptIndex]
    exact Nat.not_le.mpr within
  rw [pass, if_neg undecided, if_neg within, if_neg (by simp [steady.deadlineLeft])]

/-- A pass behind the last attempt ends the listing. -/
theorem pass_finishes (h : Collecting request left count items replans e)
    (out : e.attemptLimit ≤ count) : Lists items count (e.pass t) := by
  have undecided : ¬e.result.isSome := by simp [h.running]
  have out : e.attemptLimit ≤ e.attemptIndex := by
    rw [h.attemptIndex]
    exact out
  rw [pass, if_neg undecided, if_pos out]
  exact h.finish

theorem asked_finish (e : ModelsExecution) (t : CatalogTurn) :
    (e.asked t).finish.result = e.finish.result := by
  unfold ModelsExecution.finish
  show (if e.models.isEmpty then _ else _ : ModelsExecution).result = _
  split <;> rfl

/-- A pass whose coordinator finds no further target ends the listing. -/
theorem pass_exhausted (h : Collecting request left count items replans e) (some_ : 0 < count)
    (within : count < e.attemptLimit) (steady : Steady request keys t.toTurn)
    {failure : AdmissionFailure} (decision : e.decision t = .error failure)
    (exhausted : catalogPlanningExhausted failure) : Lists items count (e.pass t) := by
  rw [pass_of_decision h within steady, decision]
  have attempted : 0 < (e.asked t).attemptedCount := by
    show 0 < e.attemptedCount
    rw [h.attemptedCount]
    exact some_
  show Lists items count ((e.asked t).refused failure)
  rw [ModelsExecution.refused, if_pos ⟨attempted, exhausted⟩, Lists, asked_finish]
  exact h.finish

/-- A pass whose coordinator finds no target before the first attempt fails. -/
theorem pass_refused (h : Collecting request left 0 items replans e)
    (within : 0 < e.attemptLimit) (steady : Steady request keys t.toTurn)
    {failure : AdmissionFailure} (decision : e.decision t = .error failure) :
    Fails (e.pass t) := by
  rw [pass_of_decision h within steady, decision]
  have unattempted : ¬0 < (e.asked t).attemptedCount := by
    show ¬0 < e.attemptedCount
    rw [h.attemptedCount]
    exact Nat.lt_irrefl 0
  show Fails ((e.asked t).refused failure)
  rw [ModelsExecution.refused, if_neg fun both => unattempted both.1]
  exact ⟨_, rfl⟩

/-- The view of the runtime is behind in this turn, by the listing's own doing or others'. -/
def Stale (e : ModelsExecution) (t : CatalogTurn) : Prop :=
  e.runtimeRevision + t.runtimeChanges ≠ e.controller.runtimeOverlayRevision

/-- What the coordinator answers when its view of the runtime is behind. -/
theorem Collecting.next_replans (h : Collecting request left count items replans e)
    (stale : e.Stale t) (steady : Steady request keys t.toTurn)
    (few : replans ≤ maxExecutionReplans) :
    e.controller.next (e.input t) =
      (e.controller.runtimeChanged (e.runtimeRevision + t.runtimeChanges),
        .ok (.replan .runtimeReplan)) := by
  refine Routing.next_replans h.controller.fallbackBlocked ?_ stale ?_
  · rw [h.controller.deadlineMs]
    exact steady.inTime
  · rw [h.rebuilds]
    unfold maxExecutionReplans at few
    unfold RouteAdmissionCoordinator.maxRuntimeOnlyReplans
    omega

/-- A pass whose view is behind replans, as long as the listing may. -/
theorem pass_replans (h : Collecting request left count items replans e)
    (stale : e.Stale t) (within : count < e.attemptLimit) (steady : Steady request keys t.toTurn)
    (few : replans < maxExecutionReplans) :
    Collecting request left count items (replans + 1) (e.pass t) ∧ Fresh (e.pass t) := by
  obtain ⟨s, reload, configuration⟩ := steady.reload
  have answer := h.next_replans stale steady few.le
  have decision : e.decision t = .ok (.replan .runtimeReplan) := congrArg Prod.snd answer
  have asked : (e.asked t).controller = e.controller.runtimeChanged (e.runtimeRevision +
      t.runtimeChanges) := congrArg Prod.fst answer
  have passed : e.pass t = (e.asked t).replanned.withSnapshots s := by
    have left : ¬maxExecutionReplans ≤ (e.asked t).replanCount := by
      show ¬maxExecutionReplans ≤ e.replanCount
      rw [h.replanCount]
      exact Nat.not_le.mpr few
    rw [pass_of_decision h within steady, decision]
    show (e.asked t).replan t = _
    rw [ModelsExecution.replan, if_neg left, reload]
  rw [passed]
  refine ⟨⟨h.running, h.attemptIndex, h.attemptedCount, h.failedCount, h.lastFailure, ?_, ?_,
    h.models, h.seenIds, ?_, configuration, ?_, h.same⟩, ?_⟩
  · show e.replanCount + 1 = _
    rw [h.replanCount]
  · show (e.asked t).controller.progress.runtimeRebuildCount = _
    rw [asked]
    show min (e.controller.progress.runtimeRebuildCount + 1) (2 ^ 32 - 1) = _
    rw [h.rebuilds]
    unfold maxExecutionReplans at few
    omega
  · show (e.asked t).controller.fallbackPolicy = _
    rw [asked]
    exact h.policy
  · show Unhindered request left count (e.asked t).controller
    rw [asked]
    exact h.controller.runtimeChanged _
  · show (e.asked t).controller.runtimeOverlayRevision = e.runtimeRevision + t.runtimeChanges
    rw [asked]
    rfl

/-- A pass whose view is behind fails the listing when its replans are used up. -/
theorem pass_replans_out (h : Collecting request left count items replans e)
    (stale : e.Stale t) (within : count < e.attemptLimit) (steady : Steady request keys t.toTurn)
    (out : replans = maxExecutionReplans) : Fails (e.pass t) := by
  have decision : e.decision t = .ok (.replan .runtimeReplan) :=
    congrArg Prod.snd (h.next_replans stale steady out.le)
  have used : maxExecutionReplans ≤ (e.asked t).replanCount := by
    show _ ≤ e.replanCount
    rw [h.replanCount, out]
  rw [pass_of_decision h within steady, decision]
  show Fails ((e.asked t).replan t)
  rw [ModelsExecution.replan, if_pos used]
  exact ⟨_, rfl⟩

/-- A key that delivers its catalog is recorded as a success. -/
theorem admitted_of_delivers (steady : Steady request keys t.toTurn)
    {candidate : RoutePlanCandidate} {key : String} (delivers : Delivers catalogs t key) :
    e.admitted t candidate = (e.sent.collect (catalogs key)).recorded candidate .succeeded true := by
  have attempted : e.attempt t candidate =
      (e.sent.collect (catalogs key)).recorded candidate .succeeded true := by
    unfold ModelsExecution.attempt
    rw [steady.preparation]
    dsimp only
    rw [delivers.inTime, steady.boundaryCrossed, if_neg Bool.false_ne_true, delivers.attempt]
    dsimp only
    rw [answered, delivers.body]
    dsimp only
    rw [succeeded, delivers.finishAttempt, if_pos rfl]
  unfold admitted
  rcases delivers.circuit with closed | ⟨revision, halfOpen⟩
  · rw [closed]
    exact attempted
  · rw [halfOpen]
    exact attempted

theorem recorded_frame (c : RouteAdmissionCoordinator) (key identity : String)
    (outcome : ActualAttemptTerminal) :
    (c.recordActualTerminalForStationKey key identity outcome).1.progress.runtimeRebuildCount =
        c.progress.runtimeRebuildCount ∧
      (c.recordActualTerminalForStationKey key identity outcome).1.fallbackPolicy =
        c.fallbackPolicy ∧
      (c.recordActualTerminalForStationKey key identity outcome).1.runtimeOverlayRevision =
        c.runtimeOverlayRevision := by
  unfold RouteAdmissionCoordinator.recordActualTerminalForStationKey
  dsimp only
  split <;> exact ⟨rfl, rfl, rfl⟩

/-- A pass that takes a key collects its catalog, and leaves the view of the runtime
behind. -/
theorem pass_collects (h : Collecting request left count items replans e) (fresh : Fresh e)
    (within : count < e.attemptLimit) (steady : Steady request keys t.toTurn)
    (quiet : t.runtimeChanges = 0) (settled : Settled request.initial)
    (first : request.initial.planning.first left = some p) (listed : p.stationKeyId ∈ keys)
    (budget : count < request.attemptBudget.maxTotalAttempts)
    (rankZero : RankZeroFirst request.initial.planning) (led : Led request.initial.planning left)
    (delivers : e.Catalogs catalogs t) :
    Collecting request (insert p.stationKeyId left) (count + 1)
        (items ++ catalogs p.stationKeyId) replans (e.pass t) ∧
      (e.pass t).controller.runtimeOverlayRevision < (e.pass t).runtimeRevision := by
  obtain ⟨route, answer, key⟩ := h.controller.next_takes (h.asked fresh steady quiet) settled
    first budget rankZero led (steady.capacity _ listed)
  have picks : e.Picks t route := congrArg Prod.snd answer
  have asked : (e.asked t).controller = e.controller.noted e.snapshots.planning :=
    congrArg Prod.fst answer
  have delivered := delivers h.running route picks
  rw [key] at delivered
  have controller : Unhindered request left count (e.asked t).controller := by
    rw [asked]
    exact h.controller.noted _
  have policy : (e.asked t).controller.fallbackPolicy = ⟨true, false⟩ := by
    rw [asked]
    exact h.policy
  have safe : (e.asked t).controller.fallbackPolicy.retrySafe .succeeded := by
    rw [policy]
    rfl
  have few : count < 4 := Nat.lt_of_lt_of_le budget (attemptBudget_valid request).2.1
  obtain ⟨recorded, ok⟩ := controller.succeeded safe few route.candidate.stationKeyId
    route.candidate.routingIdentity
  have passed : e.pass t = { (e.asked t).sent.collect (catalogs p.stationKeyId) with
      controller := ((e.asked t).controller.recordActualTerminalForStationKey
        route.candidate.stationKeyId route.candidate.routingIdentity .succeeded).1 }.advanced := by
    rw [pass_of_decision h within steady, show e.decision t = .ok (.selected route) from picks]
    show (e.asked t).admitted t route.candidate = _
    rw [admitted_of_delivers steady delivered, ModelsExecution.recorded]
    dsimp only
    rw [collect_eq]
    dsimp only [sent]
    rw [ok]
    rfl
  obtain ⟨rebuilds, samePolicy, revision⟩ := recorded_frame (e.asked t).controller
    route.candidate.stationKeyId route.candidate.routingIdentity .succeeded
  rw [passed, collect_eq]
  refine ⟨⟨h.running, ?_, ?_, h.failedCount, h.lastFailure, h.replanCount, ?_, ?_, ?_,
    samePolicy.trans policy, h.configuration, key ▸ recorded, h.same⟩, ?_⟩
  · show e.attemptIndex + 1 = _
    rw [h.attemptIndex]
  · show max e.attemptedCount (e.attemptIndex + 1) = _
    rw [h.attemptedCount, h.attemptIndex, Nat.max_eq_right (Nat.le_succ count)]
  · refine rebuilds.trans ?_
    rw [asked]
    exact h.rebuilds
  · show e.models ++ firsts Json.modelId e.seenIds (catalogs p.stationKeyId) = _
    rw [h.models, h.seenIds, firsts_append, Finset.empty_union]
  · show e.seenIds ∪ keysOf Json.modelId (catalogs p.stationKeyId) = _
    rw [h.seenIds, keysOf_append]
  · refine Nat.lt_of_le_of_lt (Nat.le_of_eq (revision.trans ?_)) (Nat.lt_succ_self _)
    rw [asked]
    show e.controller.runtimeOverlayRevision = e.runtimeRevision + t.runtimeChanges
    rw [quiet, fresh]
    rfl

/-- A pass that finds every key done, or the attempts used up, ends the listing. -/
theorem pass_ends (h : Collecting request left count items replans e) (fresh : Fresh e)
    (some_ : 0 < count) (steady : Steady request keys t.toTurn) (quiet : t.runtimeChanges = 0)
    (settled : Settled request.initial)
    (candidates : request.initial.planning.candidates ≠ [])
    (done : request.initial.planning.first left = none ∨
      count = request.attemptBudget.maxTotalAttempts) : Lists items count (e.pass t) := by
  by_cases out : e.attemptLimit ≤ count
  · exact pass_finishes h out
  have within : count < e.attemptLimit := by omega
  cases first : request.initial.planning.first left with
  | none =>
    have asked := h.asked fresh steady quiet
    have answer := h.controller.next_without_key asked settled candidates first
    exact pass_exhausted h some_ within steady (congrArg Prod.snd answer) rfl
  | some p =>
    rw [first] at done
    have spent := done.resolve_left nofun
    have answer := h.controller.next_at_limit (h.asked fresh steady quiet) settled first spent
    exact pass_exhausted h some_ within steady (congrArg Prod.snd answer) rfl

theorem Collecting.limit (h : Collecting request left count items replans e) :
    e.attemptLimit = executionAttemptLimit request.attemptBudget
      request.initial.operational.candidates.length := by
  rw [attemptLimit, h.same]

end Steps

/-! ### The attempt limit -/

/-- The limit leaves room for an attempt on each key the budget allows. -/
theorem le_attemptLimit {request : ExecuteRequest} {n : Nat}
    (counted : n ≤ request.initial.operational.candidates.length) :
    min n request.attemptBudget.maxTotalAttempts ≤
      executionAttemptLimit request.attemptBudget request.initial.operational.candidates.length := by
  obtain ⟨-, most, threshold⟩ := attemptBudget_valid request
  have product := Nat.le_mul_of_pos_right (min request.attemptBudget.maxTotalAttempts
    (max request.initial.operational.candidates.length 1)) threshold
  unfold executionAttemptLimit maxExecutionAttemptsHardCap
  omega

/-- Keys in planning order are distinct candidates. -/
theorem length_le_of_inOrder {s : RouteSnapshots} {left : Finset String} {keys : List String}
    (order : s.planning.InOrder left keys) :
    keys.length ≤ s.operational.candidates.length := by
  have distinct : (∀ key ∈ keys, key ∉ left ∧
      key ∈ s.operational.candidates.map (·.stationKeyId)) ∧ keys.Nodup := by
    induction keys generalizing left with
    | nil => exact ⟨nofun, List.nodup_nil⟩
    | cons key rest ih =>
      obtain ⟨p, first, rfl⟩ := first_of_inOrder order
      obtain ⟨later, nodup⟩ := ih order.2
      obtain ⟨out, member⟩ := offered_of_first s first
      refine ⟨List.forall_mem_cons.mpr ⟨⟨out, member⟩, fun key hkey => ?_⟩,
        List.nodup_cons.mpr ⟨fun again => ?_, nodup⟩⟩
      · exact ⟨fun hleft => (later key hkey).1 (Finset.mem_insert_of_mem hleft), (later key hkey).2⟩
      · exact (later _ again).1 (Finset.mem_insert_self _ _)
  have subset := List.subperm_of_subset distinct.2 fun key hkey => (distinct.1 key hkey).2
  simpa using subset.length_le

/-! ### Runs -/

theorem run_over {e : ModelsExecution} (finished : e.result.isSome) (turns : List CatalogTurn) :
    run pass e turns = e := by
  induction turns with
  | nil => rfl
  | cons t rest ih => rw [run_cons, pass, if_pos finished, ih]

theorem Lists.run {items : List Json} {count : Nat} {e : ModelsExecution}
    (h : Lists items count e) (turns : List CatalogTurn) :
    Lists items count (Runs.run pass e turns) := by
  have finished : e.result.isSome := by
    rw [h]
    rfl
  rw [run_over finished]
  exact h

theorem Fails.run {e : ModelsExecution} (h : Fails e) (turns : List CatalogTurn) :
    Fails (Runs.run pass e turns) := by
  obtain ⟨failure, result⟩ := h
  have finished : e.result.isSome := by
    rw [result]
    rfl
  rw [run_over finished]
  exact ⟨failure, result⟩

section Listing
variable {request : ExecuteRequest} {catalogs : String → List Json} {keys : List String}

/-- What a run of the listing meets: every key that is taken delivers its catalog. -/
structure Meets (request : ExecuteRequest) (keys : List String) (catalogs : String → List Json)
    (e : ModelsExecution) (turns : List CatalogTurn) : Prop where
  steady : ∀ t ∈ turns, Steady request keys t.toTurn
  delivers : Along pass (Catalogs catalogs) e turns

theorem Meets.head {e : ModelsExecution} {t : CatalogTurn} {rest : List CatalogTurn}
    (h : Meets request keys catalogs e (t :: rest)) :
    Steady request keys t.toTurn ∧ e.Catalogs catalogs t :=
  ⟨h.steady t (List.mem_cons_self ..), h.delivers.1⟩

theorem Meets.tail {e : ModelsExecution} {t : CatalogTurn} {rest : List CatalogTurn}
    (h : Meets request keys catalogs e (t :: rest)) :
    Meets request keys catalogs (e.pass t) rest :=
  ⟨fun t' ht => h.steady t' (List.mem_cons_of_mem t ht), h.delivers.2⟩

/-- The attempts that the listing may make. -/
def mayAttempt (request : ExecuteRequest) : Nat :=
  executionAttemptLimit request.attemptBudget request.initial.operational.candidates.length

/-- The catalogs of `n`, from the `count`th on, after which the listing plans again: it does not
behind the last attempt that it may make. -/
def plansAfter (request : ExecuteRequest) (n count : Nat) : Nat :=
  if mayAttempt request ≤ n then n - count - 1 else n - count

/-- The listing of `n` catalogs has its replans, after the first `count`. -/
def Replannable (request : ExecuteRequest) (n count replans : Nat) (behind : Bool)
    (turns : List CatalogTurn) : Prop :=
  mayAttempt request ≤ count ∨ replans + forcedReplans (plansAfter request n count) behind
    (turns.map (·.runtimeChanges)) ≤ maxExecutionReplans

/-- The catalog taken next is one fewer to plan after, or the last. -/
theorem replannable_next {n count replans : Nat} {turns : List CatalogTurn}
    (limited : n ≤ mayAttempt request) (more : count < n) (few : replans ≤ maxExecutionReplans) :
    Replannable request n (count + 1) replans true turns ↔
      replans + (if plansAfter request n count = 0 then 0 else
        forcedReplans (plansAfter request n count - 1) true (turns.map (·.runtimeChanges))) ≤
        maxExecutionReplans := by
  unfold Replannable
  by_cases lastOne : mayAttempt request ≤ count + 1
  · have none : plansAfter request n count = 0 := by
      unfold plansAfter
      rw [if_pos (by omega)]
      omega
    rw [if_pos none]
    exact iff_of_true (.inl lastOne) few
  · have some_ : plansAfter request n count ≠ 0 := by
      unfold plansAfter
      split <;> omega
    have next : plansAfter request n (count + 1) = plansAfter request n count - 1 := by
      unfold plansAfter
      split <;> omega
    rw [or_iff_right lastOne, if_neg some_, next]

/-- From any point of the listing to its end. -/
theorem run_lists (settled : Settled request.initial)
    (rankZero : RankZeroFirst request.initial.planning)
    (candidates : request.initial.planning.candidates ≠ []) {rest : List String}
    {left : Finset String} {count replans n : Nat} {behind : Bool} {items : List Json}
    {e : ModelsExecution} {turns : List CatalogTurn}
    (h : Collecting request left count items replans e)
    (view : Views behind e.controller.runtimeOverlayRevision e.runtimeRevision)
    (led : Led request.initial.planning left)
    (order : request.initial.planning.InOrder left rest)
    (last : request.initial.planning.first (left ∪ rest.toFinset) = none)
    (listed : ∀ key ∈ rest, key ∈ keys) (some_ : 0 < count + rest.length)
    (few : replans ≤ maxExecutionReplans)
    (budget : count ≤ request.attemptBudget.maxTotalAttempts)
    (total : n = min (count + rest.length) request.attemptBudget.maxTotalAttempts)
    (limited : n ≤ mayAttempt request)
    (meets : Meets request keys catalogs e turns)
    (enough : n - count + (maxExecutionReplans - replans) < turns.length) :
    Replannable request n count replans behind turns ∧
        Lists (items ++ (rest.take (request.attemptBudget.maxTotalAttempts - count)).flatMap
            catalogs) n (run pass e turns) ∨
      ¬Replannable request n count replans behind turns ∧ Fails (run pass e turns) := by
  have positive := (attemptBudget_valid request).1
  induction turns generalizing rest left count replans behind items e with
  | nil => exact absurd enough (Nat.not_lt_zero _)
  | cons t turns ih =>
    obtain ⟨steady, delivers⟩ := meets.head
    have limit : e.attemptLimit = mayAttempt request := h.limit
    rw [List.length_cons] at enough
    by_cases out : mayAttempt request ≤ count
    · -- behind the last attempt the loop ends without another look at the runtime
      have isLast : n = count := by omega
      have none : rest.take (request.attemptBudget.maxTotalAttempts - count) = [] := by
        rw [List.take_eq_nil_iff, ← List.length_eq_zero_iff]
        omega
      rw [none, List.flatMap_nil, List.append_nil, isLast]
      exact .inl ⟨.inl out, (pass_finishes h (limit ▸ out)).run turns⟩
    have within : count < e.attemptLimit := by omega
    unfold Replannable
    rw [or_iff_right out, List.map_cons, forcedReplans]
    by_cases forced : (behind || t.runtimeChanges != 0) = true
    · rw [if_pos forced]
      have stale := view.stale forced
      rcases Nat.lt_or_eq_of_le few with more | used
      · obtain ⟨replanned, fresh⟩ := pass_replans h stale within steady more
        have view : Views false _ (e.pass t).runtimeRevision := fresh
        have later := ih replanned view led order last listed some_ more budget total meets.tail
          (by omega)
        unfold Replannable at later
        rw [or_iff_right out, Nat.add_assoc] at later
        exact later
      · exact .inr ⟨by omega, (pass_replans_out h stale within steady used).run turns⟩
    · rw [if_neg forced]
      obtain ⟨fresh, quiet⟩ := view.fresh forced
      by_cases done : n = count
      · -- every catalog is collected, and the coordinator finds no further key
        have ended : request.initial.planning.first left = none ∨
            count = request.attemptBudget.maxTotalAttempts := by
          cases rest with
          | nil => exact .inl (by simpa using last)
          | cons key rest =>
            rw [List.length_cons] at total
            exact .inr (by omega)
        have none : rest.take (request.attemptBudget.maxTotalAttempts - count) = [] := by
          rw [List.take_eq_nil_iff, ← List.length_eq_zero_iff]
          omega
        have plans : plansAfter request n count = 0 := by
          unfold plansAfter
          split <;> omega
        rw [none, List.flatMap_nil, List.append_nil, plans, if_pos rfl, done]
        have listed := pass_ends h fresh (by omega) steady quiet settled candidates ended
        exact .inl ⟨few, listed.run turns⟩
      · cases rest with
        | nil =>
          rw [List.length_nil] at total
          omega
        | cons key rest =>
          obtain ⟨p, first, rfl⟩ := first_of_inOrder order
          rw [List.length_cons] at total some_
          have left_ : count < request.attemptBudget.maxTotalAttempts := by omega
          obtain ⟨collected, behind⟩ := pass_collects h fresh within steady quiet settled first
            (listed _ (List.mem_cons_self ..)) left_ rankZero led delivers
          have view : Views true _ (e.pass t).runtimeRevision := behind
          have later := ih collected view (led.insert first) order.2 (by
              rw [Finset.insert_union, ← Finset.union_insert, ← List.toFinset_cons]
              exact last)
            (fun k hk => listed k (List.mem_cons_of_mem _ hk)) (by omega) few left_ (by omega)
            meets.tail (by omega)
          have take : (p.stationKeyId :: rest).take
              (request.attemptBudget.maxTotalAttempts - count) = p.stationKeyId ::
                rest.take (request.attemptBudget.maxTotalAttempts - (count + 1)) := by
            rw [← Nat.sub_sub, List.take_cons (by omega)]
          rw [take, List.flatMap_cons, ← List.append_assoc]
          rw [← replannable_next limited (by omega) few]
          exact later

/-- A fallback that may not begin with the first target fails the listing. -/
theorem run_waits (settled : Settled request.initial)
    (retry : request.initial.planning.modelFallbackTrigger = some .retryExhaustedBeforeOutput)
    {p : PlannedCandidate} (first : request.initial.planning.first ∅ = some p)
    (positive : 0 < p.targetRank) {replans : Nat} {e : ModelsExecution} {turns : List CatalogTurn}
    (h : Collecting request ∅ 0 [] replans e) (fresh : Fresh e)
    (within : replans ≤ maxExecutionReplans) (some_ : 0 < e.attemptLimit)
    (meets : Meets request keys catalogs e turns)
    (enough : maxExecutionReplans - replans < turns.length) : Fails (run pass e turns) := by
  induction turns generalizing replans e with
  | nil => exact absurd enough (Nat.not_lt_zero _)
  | cons t rest ih =>
    obtain ⟨steady, -⟩ := meets.head
    rw [List.length_cons] at enough
    by_cases quiet : t.runtimeChanges = 0
    · have answer := h.controller.next_waits (h.asked fresh steady quiet) settled first retry
        positive
      exact (pass_refused h some_ steady (congrArg Prod.snd answer)).run rest
    · have view : Views false _ e.runtimeRevision := fresh
      have stale : e.Stale t := view.stale (by simpa using quiet)
      rcases Nat.lt_or_eq_of_le within with few | out
      · obtain ⟨replanned, fresh⟩ := pass_replans h stale some_ steady few
        have some_ : 0 < (e.pass t).attemptLimit := by
          rw [replanned.limit, ← h.limit]
          exact some_
        exact ih replanned fresh few some_ meets.tail (by omega)
      · exact (pass_replans_out h stale some_ steady out).run rest

/-- The listed models have the ids of the items, each once. -/
theorem listed_distinct (items : List Json) :
    ((firsts Json.modelId ∅ items).filterMap Json.modelId).Nodup ∧
      keysOf Json.modelId (firsts Json.modelId ∅ items) = keysOf Json.modelId items :=
  ⟨firsts_nodup ∅ items, by rw [keysOf_firsts, Finset.sdiff_empty]⟩

end Listing

/-! ### Fixed requests -/

/-- A turn in which a catalog of one model is delivered. -/
def catalogTurn (snapshots : RouteSnapshots) : CatalogTurn where
  toTurn := plainTurn snapshots
  timedOut := false
  body := .buffered (.ok (.object [("data", .array [.object [("id", .string "model")]])]))

def oneModel (_key : String) : List Json := [.object [("id", .string "model")]]

theorem catalogTurn_meets {request : ExecuteRequest} {keys : List String} {n : Nat}
    (inTime : 0 < request.deadlineMs)
    (configuration : SameConfiguration request.initial request.initial) :
    Meets request keys oneModel (start request)
      (List.replicate n (catalogTurn request.initial)) := by
  refine ⟨fun t ht => ?_, along_of_forall (fun t ht e _ route _ => ?_) _⟩
  · rw [List.eq_of_mem_replicate ht]
    exact ⟨rfl, inTime, ⟨_, rfl, configuration⟩, fun key _ => hasCapacity_of_idle key, rfl, rfl⟩
  · rw [List.eq_of_mem_replicate ht]
    exact ⟨.inl rfl, rfl, rfl, rfl, rfl⟩

/-- Did the listing fail? -/
def failed (e : ModelsExecution) : Bool :=
  match e.result with
  | some (.error _) => true
  | _ => false

end ModelsExecution

end RelayPool.Routing
