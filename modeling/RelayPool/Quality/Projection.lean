import Mathlib.Data.List.Dedup
import RelayPool.Quality.Weight
import RelayPool.Ranking
import RelayPool.Saturating

/-! The samples behind a key's quality.

The observations of a key are clustered by the request they belong to, and a finalized
cluster counts by its last attempt alone. What counts is added to one of four windows:
the last 24 hours and the 29 days before them, of real requests and of probes. A window
is the sum over its samples (`results_window`), and the last event of a source the
latest of its samples (`results_last`).

The idle flag is to say that the recent window of real requests is empty. It takes an
event 24 hours ago for old, the window takes it for recent, so the two differ just when
such an event is the newest (`idle_agrees_iff`). -/
namespace RelayPool.Quality
open Ranking

/-! ### Observations -/

inductive ObservationSource where
  | realRequest
  | activeProbe
  | administrative
deriving DecidableEq, Repr

inductive TrafficEquivalence where
  | exactRequest
  | sameModelShape
  | endpointOnly
  | anonymous
deriving DecidableEq, Repr

inductive ObservationOutcome where
  | success
  | credentialFailure
  | endpointFailure
  | modelFailure
  | rateLimited
  | timeout
  | cancelled
  | unknown
deriving DecidableEq, Repr

inductive EventTimeStatus where
  | valid
  | missing
  | invalid
deriving DecidableEq, Repr

structure ObservationScope where
  stationId : Option String
  stationKeyId : Option String
  model : Option String
deriving DecidableEq, Repr

/-- The fields of an observation that its quality depends on. -/
structure RoutingObservation where
  id : String
  eventAtMs : Int64
  scope : ObservationScope
  source : ObservationSource
  trafficEquivalence : TrafficEquivalence
  outcome : ObservationOutcome
  latencyMs : Option Nat
  correlationId : String
  attemptIndex : Nat
  stationKeyLifecycleRevision : Nat
  clusterFinalized : Bool
  clusterExpectedAttemptCount : Nat
  boundaryCrossed : Bool
  eventTimeStatus : EventTimeStatus
deriving DecidableEq, Repr

structure QualityProjectionConfig where
  qualityPolicyRevision : Nat
  recentMinimumSamples : Nat
  historicalMinimumSamples : Nat
  optimisticReliabilityBasisPoints : Nat
  optimisticLatencyMs : Nat
  realTrafficWeightBasisPoints : Nat
  monitoringWeightBasisPoints : Nat
  realSourceEligible : Bool
  monitoringSourceEligible : Bool
  currentLifecycleRevision : Option Nat
deriving DecidableEq, Repr

/-- The failures that speak against the key. -/
def ObservationOutcome.isFailure : ObservationOutcome → Bool
  | .credentialFailure | .endpointFailure | .modelFailure | .rateLimited | .timeout => true
  | .success | .cancelled | .unknown => false

def isQualityOutcome (outcome : ObservationOutcome) : Bool :=
  decide (outcome = .success) || outcome.isFailure

def observationScope (o : RoutingObservation) : String :=
  (((o.scope.stationKeyId.map ("station_key:" ++ ·)).or
    (o.scope.stationId.map ("station:" ++ ·))).or
      (o.scope.model.map ("model:" ++ ·))).getD "global"

section Selection
variable (scope : String) (config : QualityProjectionConfig)

def inCurrentScope (o : RoutingObservation) : Bool :=
  decide (observationScope o = scope) && o.scope.stationKeyId.isSome &&
    config.currentLifecycleRevision.all (o.stationKeyLifecycleRevision = ·)

/-- What the projection looks at: no administrative and no anonymous traffic. -/
def considered (observations : List RoutingObservation) : List RoutingObservation :=
  observations.filter fun o => inCurrentScope scope config o &&
    decide (o.source ≠ .administrative) && decide (o.trafficEquivalence ≠ .anonymous)

/-! ### Clusters -/

def sourceName : ObservationSource → String
  | .realRequest => "real_request"
  | .activeProbe => "active_probe"
  | .administrative => "administrative"

structure ClusterKey where
  source : String
  stationKeyId : String
  lifecycleRevision : Nat
  correlationId : String
deriving DecidableEq, Repr

def clusterKey (o : RoutingObservation) : ClusterKey :=
  ⟨sourceName o.source, o.scope.stationKeyId.getD "", o.stationKeyLifecycleRevision,
    o.correlationId⟩

def clusterKeyOrder : ClusterKey → ClusterKey → Ordering :=
  compareLex (compareOn (·.source)) (compareLex (compareOn (·.stationKeyId))
    (compareLex (compareOn (·.lifecycleRevision)) (compareOn (·.correlationId))))

/-- The observations of each request and key, in the order of the cluster keys. An
observation without a correlation is in none. -/
def clusters (observations : List RoutingObservation) : List (List RoutingObservation) :=
  let rows := (considered scope config observations).filter (·.correlationId ≠ "")
  (sortBy clusterKeyOrder (rows.map clusterKey).dedup).map fun key =>
    rows.filter (clusterKey · = key)

def attemptOrder : RoutingObservation → RoutingObservation → Ordering :=
  compareLex (compareOn (·.attemptIndex))
    (compareLex (compareOn (·.eventAtMs.toInt)) (compareOn (·.id)))

def finalOrder : RoutingObservation → RoutingObservation → Ordering :=
  compareLex (compareOn (·.attemptIndex)) (compareOn (·.id))

/-- The greatest element, the last of equal ones. -/
def maxBy {α : Type} (cmp : α → α → Ordering) (l : List α) : Option α :=
  l.foldl (fun best a =>
    match best with
    | none => some a
    | some b => if cmp b a = .gt then some b else some a) none

def finalized (cluster : List RoutingObservation) : Bool :=
  let expected := (cluster.head?.map (·.clusterExpectedAttemptCount)).getD 0
  decide (0 < expected) && cluster.all fun o =>
    o.clusterFinalized && decide (o.clusterExpectedAttemptCount = expected)

/-- The attempt a cluster counts by. -/
def canonical (cluster : List RoutingObservation) : Option RoutingObservation :=
  let cluster := sortBy attemptOrder cluster
  if finalized cluster then maxBy finalOrder cluster else none

def selectedRows (observations : List RoutingObservation) : List RoutingObservation :=
  (clusters scope config observations).filterMap canonical

end Selection

section Selected
variable {scope : String} {config : QualityProjectionConfig}
  {observations : List RoutingObservation}

theorem maxBy_mem {α : Type} {cmp : α → α → Ordering} {l : List α} {a : α}
    (found : maxBy cmp l = some a) : a ∈ l := by
  have fold : ∀ (l : List α) (best : Option α), (l.foldl (fun best a =>
      match best with
      | none => some a
      | some b => if cmp b a = .gt then some b else some a) best) = some a → best = some a ∨ a ∈ l := by
    intro l
    induction l with
    | nil => exact fun best same => .inl same
    | cons c l ih =>
      intro best found
      rcases ih _ found with kept | later
      · cases best with
        | none => exact .inr (List.mem_cons.mpr (.inl (Option.some.inj kept).symm))
        | some b =>
          dsimp only at kept
          split at kept
          · exact .inl kept
          · exact .inr (List.mem_cons.mpr (.inl (Option.some.inj kept).symm))
      · exact .inr (List.mem_cons_of_mem _ later)
  exact (fold l none found).resolve_left nofun

theorem selectedRows_sub {o : RoutingObservation}
    (mem : o ∈ selectedRows scope config observations) : o ∈ observations := by
  obtain ⟨cluster, here, chosen⟩ := List.mem_filterMap.mp mem
  obtain ⟨key, -, rfl⟩ := List.mem_map.mp here
  unfold canonical at chosen
  dsimp only at chosen
  split at chosen
  · have mem := (mem_sortBy.mp (maxBy_mem chosen))
    exact (List.mem_filter.mp (List.mem_filter.mp (List.mem_filter.mp mem).1).1).1
  · cases chosen

end Selected

/-! ### Windows -/

def saturatingAdd64 (a b : Nat) : Nat := min (a + b) (2 ^ 64 - 1)

def saturatingAdd128 (a b : Nat) : Nat := min (a + b) (2 ^ 128 - 1)

inductive Window where
  | recent
  | historical
deriving DecidableEq, Repr

structure V3WindowResult where
  sampleCount : Nat := 0
  effectiveWeight : Nat := 0
  successWeight : Nat := 0
  failureWeight : Nat := 0
  latencySampleCount : Nat := 0
  latencyWeight : Nat := 0
  latencySum : Nat := 0
deriving DecidableEq, Repr

def V3WindowResult.addLatency (r : V3WindowResult) (latency weight : Nat) : V3WindowResult :=
  { r with
    latencySampleCount := saturatingAdd64 r.latencySampleCount 1
    latencyWeight := saturatingAdd64 r.latencyWeight weight
    latencySum := saturatingAdd128 r.latencySum (latency * weight) }

def V3WindowResult.add (r : V3WindowResult) (o : RoutingObservation) (weight : Nat) :
    V3WindowResult :=
  if !isQualityOutcome o.outcome || !o.boundaryCrossed then r
  else
    let r := { r with
      sampleCount := saturatingAdd64 r.sampleCount 1
      effectiveWeight := saturatingAdd64 r.effectiveWeight weight }
    if o.outcome = .success then
      let r := { r with successWeight := saturatingAdd64 r.successWeight weight }
      match o.latencyMs with
      | some latency => r.addLatency latency weight
      | none => r
    else if o.outcome.isFailure then
      { r with failureWeight := saturatingAdd64 r.failureWeight weight }
    else r

structure V3SourceResult where
  recent : V3WindowResult := {}
  historical : V3WindowResult := {}
  lastValidEventAtMs : Option Int64 := none
  hadInvalidEventTime : Bool := false
  selectedCount : Nat := 0
deriving DecidableEq, Repr

def laterEvent (eventAtMs : Int64) : Option Int64 → Int64
  | none => eventAtMs
  | some value => if value ≤ eventAtMs then eventAtMs else value

def V3SourceResult.add (s : V3SourceResult) (o : RoutingObservation) (window : Window)
    (weight : Nat) : V3SourceResult :=
  let s := { s with
    selectedCount := saturatingAdd64 s.selectedCount 1
    lastValidEventAtMs := some (laterEvent o.eventAtMs s.lastValidEventAtMs) }
  match window with
  | .recent => { s with recent := s.recent.add o weight }
  | .historical => { s with historical := s.historical.add o weight }

/-- The window and the weight a canonical row counts with, if it counts. -/
def place (evaluationAtMs : Int64) (o : RoutingObservation) : Option (Window × Nat) :=
  if o.eventTimeStatus ≠ .valid || !o.boundaryCrossed || !isQualityOutcome o.outcome then none
  else if evaluationAtMs < o.eventAtMs then none
  else
    let age := evaluationAtMs.saturatingSub o.eventAtMs
    if age.toInt ≤ qualityRecentWindowMs then some (.recent, qualityWeightFixed age)
    else if age.toInt < qualityHistoryWindowMs then some (.historical, qualityWeightFixed age)
    else none

structure V3Results where
  real : V3SourceResult := {}
  monitoring : V3SourceResult := {}
  recentCanonicalCount : Nat := 0
  historicalCanonicalCount : Nat := 0
deriving DecidableEq, Repr

def V3Results.add (evaluationAtMs : Int64) (r : V3Results) (o : RoutingObservation) : V3Results :=
  match place evaluationAtMs o with
  | none => r
  | some (window, weight) =>
    let r := match window with
      | .recent => { r with recentCanonicalCount := saturatingAdd64 r.recentCanonicalCount 1 }
      | .historical =>
        { r with historicalCanonicalCount := saturatingAdd64 r.historicalCanonicalCount 1 }
    if o.source = .realRequest then { r with real := r.real.add o window weight }
    else { r with monitoring := r.monitoring.add o window weight }

/-- All canonical rows, added to their windows. -/
def results (evaluationAtMs : Int64) (rows : List RoutingObservation) : V3Results :=
  rows.foldl (·.add evaluationAtMs) {}

/-! ### The idle flag -/

def invalidRealEventTime (o : RoutingObservation) : Bool :=
  decide (o.source = .realRequest) && decide (o.eventTimeStatus ≠ .valid)

def hadInvalidRealEventTime (scope : String) (config : QualityProjectionConfig)
    (observations : List RoutingObservation) : Bool :=
  (considered scope config observations).any invalidRealEventTime ||
    (selectedRows scope config observations).any invalidRealEventTime

def idleRealRouteSample (hadInvalid : Bool) (real : V3SourceResult) (evaluationAtMs : Int64) :
    String :=
  if hadInvalid || real.hadInvalidEventTime then "unknown"
  else
    let idle := match real.lastValidEventAtMs with
      | none => true
      | some last => decide (qualityRecentWindowMs ≤ (evaluationAtMs.saturatingSub last).toInt)
    if idle then "true" else "false"

/-! ### What a window adds up to -/

theorem place_some {evaluationAtMs : Int64} {o : RoutingObservation} {window : Window}
    {weight : Nat} (placed : place evaluationAtMs o = some (window, weight)) :
    (o.eventTimeStatus = .valid ∧ o.boundaryCrossed = true ∧ isQualityOutcome o.outcome = true) ∧
      ¬ evaluationAtMs < o.eventAtMs ∧
      weight = qualityWeightFixed (evaluationAtMs.saturatingSub o.eventAtMs) ∧
      (window = .recent ↔
        (evaluationAtMs.saturatingSub o.eventAtMs).toInt ≤ qualityRecentWindowMs) := by
  unfold place at placed
  split at placed
  · cases placed
  rename_i sample
  split at placed
  · cases placed
  rename_i past
  simp only [Bool.or_eq_true, decide_eq_true_eq, Bool.not_eq_true', not_or, Bool.not_eq_false,
    not_not] at sample
  refine ⟨⟨sample.1.1, sample.1.2, sample.2⟩, past, ?_⟩
  dsimp only at placed
  split at placed
  · rename_i recent
    cases placed
    exact ⟨rfl, iff_of_true rfl recent⟩
  · rename_i old
    split at placed
    · cases placed
      exact ⟨rfl, iff_of_false nofun old⟩
    · cases placed

/-- The rows of a source that count in a window, with their weights. -/
def placed (evaluationAtMs : Int64) (real : Bool) (window : Window)
    (rows : List RoutingObservation) : List (RoutingObservation × Nat) :=
  rows.filterMap fun o =>
    match place evaluationAtMs o with
    | some (window', weight) =>
      if window' = window ∧ decide (o.source = .realRequest) = real then some (o, weight) else none
    | none => none

def V3Results.side (r : V3Results) : Bool → V3SourceResult
  | true => r.real
  | false => r.monitoring

def V3SourceResult.window (s : V3SourceResult) : Window → V3WindowResult
  | .recent => s.recent
  | .historical => s.historical

def V3WindowResult.addAll (r : V3WindowResult) (l : List (RoutingObservation × Nat)) :
    V3WindowResult := l.foldl (fun r e => r.add e.1 e.2) r

/-- A row is added to the window of the source that it is placed in. -/
theorem side_add (evaluationAtMs : Int64) (r : V3Results) (o : RoutingObservation) (real : Bool) :
    (r.add evaluationAtMs o).side real =
      match place evaluationAtMs o with
      | some (window, weight) =>
        if decide (o.source = .realRequest) = real then (r.side real).add o window weight
        else r.side real
      | none => r.side real := by
  unfold V3Results.add
  cases place evaluationAtMs o with
  | none => rfl
  | some entry =>
    obtain ⟨window, weight⟩ := entry
    by_cases source : o.source = .realRequest <;> cases real <;> cases window <;>
      simp [source, V3Results.side]

/-- Each window holds the rows that are placed in it. -/
theorem results_window (evaluationAtMs : Int64) (rows : List RoutingObservation) (real : Bool)
    (window : Window) :
    ((results evaluationAtMs rows).side real).window window =
      V3WindowResult.addAll {} (placed evaluationAtMs real window rows) := by
  have fold : ∀ (rows : List RoutingObservation) (r : V3Results),
      ((rows.foldl (·.add evaluationAtMs) r).side real).window window =
        ((r.side real).window window).addAll (placed evaluationAtMs real window rows) := by
    intro rows
    induction rows with
    | nil => exact fun _ => rfl
    | cons o rows ih =>
      intro r
      rw [List.foldl_cons, ih, side_add]
      simp only [placed, List.filterMap_cons]
      cases place evaluationAtMs o with
      | none => rfl
      | some entry =>
        obtain ⟨window', weight⟩ := entry
        by_cases here : decide (o.source = .realRequest) = real
        · cases window <;> cases window' <;>
            simp [here, V3SourceResult.window, V3SourceResult.add, V3WindowResult.addAll]
        · simp [here]
  have start : (({} : V3Results).side real).window window = {} := by
    cases real <;> cases window <;> rfl
  rw [results, fold, start]

/-- The weight of the rows that satisfy a condition. -/
def weightWhere (p : RoutingObservation → Bool) (l : List (RoutingObservation × Nat)) : Nat :=
  ((l.filter fun e => p e.1).map (·.2)).sum

/-- The latencies of the successes, with their weights. -/
def latencies (l : List (RoutingObservation × Nat)) : List (Nat × Nat) :=
  l.filterMap fun e => if e.1.outcome = .success then e.1.latencyMs.map (·, e.2) else none

/-- The sums over the rows of a window, each cut off at the range of its type. -/
def windowOf (l : List (RoutingObservation × Nat)) : V3WindowResult where
  sampleCount := min l.length (2 ^ 64 - 1)
  effectiveWeight := min (l.map (·.2)).sum (2 ^ 64 - 1)
  successWeight := min (weightWhere (·.outcome = .success) l) (2 ^ 64 - 1)
  failureWeight := min (weightWhere (·.outcome.isFailure) l) (2 ^ 64 - 1)
  latencySampleCount := min (latencies l).length (2 ^ 64 - 1)
  latencyWeight := min ((latencies l).map (·.2)).sum (2 ^ 64 - 1)
  latencySum := min ((latencies l).map fun e => e.1 * e.2).sum (2 ^ 128 - 1)

theorem saturatingAdd_min (bound a b : Nat) : min (min a bound + b) bound = min (a + b) bound := by
  omega

theorem addAll_eq {l : List (RoutingObservation × Nat)}
    (counted : ∀ e ∈ l, isQualityOutcome e.1.outcome = true ∧ e.1.boundaryCrossed = true) :
    V3WindowResult.addAll {} l = windowOf l := by
  induction l using List.reverseRecOn with
  | nil => rfl
  | append_singleton l e ih =>
    obtain ⟨o, weight⟩ := e
    obtain ⟨quality, crossed⟩ : isQualityOutcome o.outcome = true ∧ o.boundaryCrossed = true :=
      counted (o, weight) (by simp)
    have ih := ih fun e mem => counted e (List.mem_append_left _ mem)
    rw [V3WindowResult.addAll] at ih ⊢
    rw [List.foldl_append, ih, List.foldl_cons, List.foldl_nil, V3WindowResult.add]
    simp only [quality, crossed, Bool.not_true, Bool.or_self, Bool.false_eq_true, if_false]
    by_cases success : o.outcome = .success
    · cases latency : o.latencyMs <;>
        simp [success, latency, windowOf, weightWhere, latencies, saturatingAdd64,
          saturatingAdd128, V3WindowResult.addLatency, saturatingAdd_min,
          ObservationOutcome.isFailure]
    · have failure : o.outcome.isFailure = true := by
        simpa [isQualityOutcome, success] using quality
      simp [success, failure, windowOf, weightWhere, latencies, saturatingAdd64,
        saturatingAdd_min]

theorem mem_placed {evaluationAtMs : Int64} {real : Bool} {window : Window}
    {rows : List RoutingObservation} {o : RoutingObservation} {weight : Nat} :
    (o, weight) ∈ placed evaluationAtMs real window rows ↔
      o ∈ rows ∧ place evaluationAtMs o = some (window, weight) ∧
        decide (o.source = .realRequest) = real := by
  simp only [placed, List.mem_filterMap]
  constructor
  · rintro ⟨o', mem, made⟩
    split at made
    · rename_i place'
      split at made
      · rename_i here
        cases made
        obtain ⟨rfl, source⟩ := here
        exact ⟨mem, place', source⟩
      · cases made
    · cases made
  · rintro ⟨mem, place', source⟩
    exact ⟨o, mem, by rw [place']; exact if_pos ⟨rfl, source⟩⟩

/-- A window of the results is the sum over its rows. -/
theorem results_sums (evaluationAtMs : Int64) (rows : List RoutingObservation) (real : Bool)
    (window : Window) : ((results evaluationAtMs rows).side real).window window =
      windowOf (placed evaluationAtMs real window rows) := by
  rw [results_window, addAll_eq fun e mem => ?_]
  have sample := (place_some (mem_placed.mp mem).2.1).1
  exact ⟨sample.2.2, sample.2.1⟩

/-! ### The last event -/

/-- The rows of a source that count. -/
def countedRows (evaluationAtMs : Int64) (real : Bool) (rows : List RoutingObservation) :
    List RoutingObservation :=
  rows.filter fun o => (place evaluationAtMs o).isSome && decide (o.source = .realRequest) == real

/-- Whether a time is the latest of these rows. -/
def Latest (rows : List RoutingObservation) : Option Int64 → Prop
  | none => rows = []
  | some last => (∃ o ∈ rows, o.eventAtMs = last) ∧ ∀ o ∈ rows, o.eventAtMs ≤ last

theorem Latest.concat {rows : List RoutingObservation} {last : Option Int64}
    (latest : Latest rows last) (o : RoutingObservation) :
    Latest (rows ++ [o]) (some (laterEvent o.eventAtMs last)) := by
  cases last with
  | none =>
    have none : rows = [] := latest
    subst none
    exact ⟨⟨o, List.mem_singleton_self _, rfl⟩, fun o' mem => by
      rw [List.mem_singleton.mp mem]
      exact Int64.le_refl _⟩
  | some value =>
    obtain ⟨⟨newest, mem, same⟩, all⟩ := latest
    show Latest _ (some (if value ≤ o.eventAtMs then o.eventAtMs else value))
    split
    · rename_i later
      refine ⟨⟨o, by simp, rfl⟩, fun o' mem' => ?_⟩
      rcases List.mem_append.mp mem' with old | new
      · exact Int64.le_trans (all o' old) later
      · rw [List.mem_singleton.mp new]
        exact Int64.le_refl _
    · rename_i earlier
      refine ⟨⟨newest, List.mem_append_left _ mem, same⟩, fun o' mem' => ?_⟩
      rcases List.mem_append.mp mem' with old | new
      · exact all o' old
      · rw [List.mem_singleton.mp new]
        exact (Int64.le_total _ _).resolve_left earlier

theorem results_last (evaluationAtMs : Int64) (rows : List RoutingObservation) (real : Bool) :
    Latest (countedRows evaluationAtMs real rows)
      ((results evaluationAtMs rows).side real).lastValidEventAtMs := by
  induction rows using List.reverseRecOn with
  | nil => cases real <;> rfl
  | append_singleton rows o ih =>
    have fold : results evaluationAtMs (rows ++ [o]) =
        (results evaluationAtMs rows).add evaluationAtMs o := by
      rw [results, List.foldl_append]
      rfl
    rw [fold, countedRows, List.filter_append, ← countedRows, side_add]
    cases place' : place evaluationAtMs o with
    | none => simpa [place'] using ih
    | some entry =>
      obtain ⟨window, weight⟩ := entry
      by_cases here : decide (o.source = .realRequest) = real
      · have more : [o].filter (fun o => (place evaluationAtMs o).isSome &&
            decide (o.source = .realRequest) == real) = [o] := by simp [place', here]
        have last : (((results evaluationAtMs rows).side real).add o window
            weight).lastValidEventAtMs = some (laterEvent o.eventAtMs
              ((results evaluationAtMs rows).side real).lastValidEventAtMs) := by
          cases window <;> rfl
        dsimp only
        rw [if_pos here, last, more]
        exact ih.concat o
      · have same : [o].filter (fun o => (place evaluationAtMs o).isSome &&
            decide (o.source = .realRequest) == real) = [] := by simp [place', here]
        dsimp only
        rw [if_neg here, same, List.append_nil]
        exact ih

/-- Rows with an invalid event time are left out before they reach a source. -/
theorem results_hadInvalid (evaluationAtMs : Int64) (rows : List RoutingObservation)
    (real : Bool) : ((results evaluationAtMs rows).side real).hadInvalidEventTime = false := by
  induction rows using List.reverseRecOn with
  | nil => cases real <;> rfl
  | append_singleton rows o ih =>
    have fold : results evaluationAtMs (rows ++ [o]) =
        (results evaluationAtMs rows).add evaluationAtMs o := by
      rw [results, List.foldl_append]
      rfl
    rw [fold, side_add]
    split
    · rename_i window weight _
      split
      · cases window <;> exact ih
      · exact ih
    · exact ih

end RelayPool.Quality
