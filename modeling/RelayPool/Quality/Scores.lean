import RelayPool.Quality.Summary

/-! What the scores of a key depend on.

Which attempt a request counts by does not depend on outcomes and latencies
(`selectedRows_map`), so a change of these keeps every sample in its window. A failure
that becomes a success lowers no reliability (`success_never_lowers`), a smaller latency
of a success no responsiveness (`latency_never_lowers`).

All roundings together move a reliability by at most three basis points from the
quotients of the sums (`reliability_near`), as long as the sums are in their range. -/
namespace RelayPool.Quality
open Ranking Rounding

/-! ### What the selection looks at -/

/-- An observation but for its outcome and its latency. -/
def RoutingObservation.bare (o : RoutingObservation) : RoutingObservation :=
  { o with outcome := .unknown, latencyMs := none }

section Selection
variable {f : RoutingObservation → RoutingObservation}

/-- What does not look at outcome and latency is the same after a change of these. -/
theorem eq_of_bare {β : Type} (bare : ∀ o, (f o).bare = o.bare) (g : RoutingObservation → β)
    (blind : ∀ o, g o = g o.bare) (o : RoutingObservation) : g (f o) = g o := by
  rw [blind (f o), bare, ← blind]

theorem sortBy_map_of_eq {α : Type} {cmp : α → α → Ordering} {f : α → α}
    (same : ∀ a b, cmp (f a) (f b) = cmp a b) (l : List α) :
    sortBy cmp (l.map f) = (sortBy cmp l).map f := by
  rw [sortBy_map]
  exact congrArg (List.map f) (sortBy_congr fun a _ b _ => same a b)

theorem maxBy_map {α : Type} {cmp : α → α → Ordering} {f : α → α}
    (same : ∀ a b, cmp (f a) (f b) = cmp a b) (l : List α) :
    maxBy cmp (l.map f) = (maxBy cmp l).map f := by
  unfold maxBy
  rw [List.foldl_map]
  show List.foldl _ (Option.map f none) l = _
  refine List.foldl_hom (Option.map f) fun best a => ?_
  cases best with
  | none => rfl
  | some b =>
    simp only [Option.map_some, same]
    split <;> rfl

variable (bare : ∀ o, (f o).bare = o.bare)
include bare

theorem attemptOrder_map (a b : RoutingObservation) :
    attemptOrder (f a) (f b) = attemptOrder a b := by
  have key := eq_of_bare bare (fun o => (o.attemptIndex, o.eventAtMs, o.id)) fun _ => rfl
  have order (a b : RoutingObservation) : attemptOrder a b =
      compareLex (compareOn (·.1)) (compareLex (compareOn (·.2.1.toInt)) (compareOn (·.2.2)))
        (a.attemptIndex, a.eventAtMs, a.id) (b.attemptIndex, b.eventAtMs, b.id) := rfl
  rw [order (f a), order a, key, key]

theorem finalOrder_map (a b : RoutingObservation) : finalOrder (f a) (f b) = finalOrder a b := by
  have key := eq_of_bare bare (fun o => (o.attemptIndex, o.id)) fun _ => rfl
  have order (a b : RoutingObservation) : finalOrder a b =
      compareLex (compareOn (·.1)) (compareOn (·.2)) (a.attemptIndex, a.id)
        (b.attemptIndex, b.id) := rfl
  rw [order (f a), order a, key, key]

theorem finalized_map (cluster : List RoutingObservation) :
    finalized (cluster.map f) = finalized cluster := by
  have count := eq_of_bare bare (·.clusterExpectedAttemptCount) fun _ => rfl
  have done := eq_of_bare bare (·.clusterFinalized) fun _ => rfl
  have expected : ((cluster.map f).head?.map (·.clusterExpectedAttemptCount)).getD 0 =
      (cluster.head?.map (·.clusterExpectedAttemptCount)).getD 0 := by
    cases cluster with
    | nil => rfl
    | cons o rest => simp [count]
  simp only [finalized, expected, List.all_map, Function.comp_def, count, done]

theorem canonical_map (cluster : List RoutingObservation) :
    canonical (cluster.map f) = (canonical cluster).map f := by
  simp only [canonical, sortBy_map_of_eq (attemptOrder_map bare), finalized_map bare,
    maxBy_map (finalOrder_map bare)]
  split <;> rfl

theorem filter_map_of_bare (p : RoutingObservation → Bool) (blind : ∀ o, p o = p o.bare)
    (l : List RoutingObservation) : (l.map f).filter p = (l.filter p).map f := by
  rw [List.filter_map]
  exact congrArg (List.map f) (List.filter_congr fun o _ => eq_of_bare bare p blind o)

theorem clusters_map (scope : String) (config : QualityProjectionConfig)
    (observations : List RoutingObservation) :
    clusters scope config (observations.map f) =
      (clusters scope config observations).map (List.map f) := by
  have key := eq_of_bare bare clusterKey fun _ => rfl
  have keys (l : List RoutingObservation) : (l.map f).map clusterKey = l.map clusterKey := by
    rw [List.map_map]
    exact List.map_congr_left fun o _ => key o
  simp only [clusters, considered]
  rw [filter_map_of_bare bare _ fun _ => rfl, filter_map_of_bare bare _ fun _ => rfl, keys,
    List.map_map]
  exact List.map_congr_left fun k _ => filter_map_of_bare bare _ (fun _ => rfl) _

/-- A change of outcomes and latencies changes the selected rows and no more. -/
theorem selectedRows_map (scope : String) (config : QualityProjectionConfig)
    (observations : List RoutingObservation) :
    selectedRows scope config (observations.map f) =
      (selectedRows scope config observations).map f := by
  rw [selectedRows, clusters_map bare, List.filterMap_map, selectedRows, List.map_filterMap]
  exact List.filterMap_congr fun cluster _ => canonical_map bare cluster

/-- A sample stays where it is if it still speaks for or against the key. -/
theorem place_map (quality : ∀ o, isQualityOutcome (f o).outcome = isQualityOutcome o.outcome)
    (evaluationAtMs : Int64) (o : RoutingObservation) :
    place evaluationAtMs (f o) = place evaluationAtMs o := by
  have status := eq_of_bare bare (·.eventTimeStatus) (fun _ => rfl) o
  have crossed := eq_of_bare bare (·.boundaryCrossed) (fun _ => rfl) o
  have time := eq_of_bare bare (·.eventAtMs) (fun _ => rfl) o
  simp only [place, status, crossed, time, quality]

end Selection

/-! ### Windows -/

/-- The samples of a window, with their weights. -/
def windowSamples (scope : String) (config : QualityProjectionConfig) (evaluationAtMs : Int64)
    (observations : List RoutingObservation) (real : Bool) (window : Window) :
    List (RoutingObservation × Nat) :=
  placed (evaluated evaluationAtMs) real window (selectedRows scope config observations)

/-- Sources and windows of an evaluation. -/
def evaluatedResults (scope : String) (config : QualityProjectionConfig) (evaluationAtMs : Int64)
    (observations : List RoutingObservation) : V3Results :=
  results (evaluated evaluationAtMs) (selectedRows scope config observations)

theorem evaluatedResults_window (scope : String) (config : QualityProjectionConfig)
    (evaluationAtMs : Int64) (observations : List RoutingObservation) (real : Bool)
    (window : Window) :
    ((evaluatedResults scope config evaluationAtMs observations).side real).window window =
      windowOf (windowSamples scope config evaluationAtMs observations real window) :=
  results_sums _ _ real window

/-- The samples after a change, with the weights they had before. -/
def changeSamples (f : RoutingObservation → RoutingObservation)
    (l : List (RoutingObservation × Nat)) : List (RoutingObservation × Nat) :=
  l.map fun e => (f e.1, e.2)

theorem windowSamples_map {f : RoutingObservation → RoutingObservation}
    (bare : ∀ o, (f o).bare = o.bare)
    (quality : ∀ o, isQualityOutcome (f o).outcome = isQualityOutcome o.outcome) (scope : String)
    (config : QualityProjectionConfig) (evaluationAtMs : Int64)
    (observations : List RoutingObservation) (real : Bool) (window : Window) :
    windowSamples scope config evaluationAtMs (observations.map f) real window =
      changeSamples f (windowSamples scope config evaluationAtMs observations real window) := by
  have source := eq_of_bare bare (·.source) fun _ => rfl
  rw [windowSamples, selectedRows_map bare, windowSamples, placed, placed, changeSamples,
    List.filterMap_map, List.map_filterMap]
  refine List.filterMap_congr fun o _ => ?_
  simp only [Function.comp_apply, place_map bare quality, source]
  cases place (evaluated evaluationAtMs) o with
  | none => rfl
  | some entry =>
    dsimp only
    split <;> rfl

theorem changeSamples_weights (f : RoutingObservation → RoutingObservation)
    (l : List (RoutingObservation × Nat)) : (changeSamples f l).map (·.2) = l.map (·.2) := by
  rw [changeSamples, List.map_map]
  rfl

/-! ### Reliability -/

/-- A window with the samples of another and at least its successes. -/
structure WindowLe (r r' : V3WindowResult) : Prop where
  samples : r'.sampleCount = r.sampleCount
  weight : r'.effectiveWeight = r.effectiveWeight
  successes : r.successWeight ≤ r'.successWeight

theorem weightWhere_mono {p p' : RoutingObservation → Bool} (l : List (RoutingObservation × Nat))
    (imp : ∀ o, p o = true → p' o = true) : weightWhere p l ≤ weightWhere p' l := by
  induction l with
  | nil => exact Nat.le_refl _
  | cons e l ih =>
    unfold weightWhere at ih ⊢
    rw [List.filter_cons, List.filter_cons]
    by_cases counts : p e.1 = true
    · rw [if_pos counts, if_pos (imp _ counts)]
      exact Nat.add_le_add_left ih _
    · rw [if_neg counts]
      split
      · exact ih.trans (Nat.le_add_left _ _)
      · exact ih

theorem weightWhere_change (f : RoutingObservation → RoutingObservation)
    (p : RoutingObservation → Bool) (l : List (RoutingObservation × Nat)) :
    weightWhere p (changeSamples f l) = weightWhere (fun o => p (f o)) l := by
  rw [weightWhere, changeSamples, List.filter_map, List.map_map]
  rfl

theorem windowLe_of_successes {f : RoutingObservation → RoutingObservation}
    (keeps : ∀ o, o.outcome = .success → (f o).outcome = .success)
    (l : List (RoutingObservation × Nat)) :
    WindowLe (windowOf l) (windowOf (changeSamples f l)) := by
  constructor
  · simp only [windowOf, changeSamples, List.length_map]
  · simp only [windowOf, changeSamples_weights]
  · refine min_le_min_right _ ?_
    rw [weightWhere_change]
    exact weightWhere_mono l fun o success => by simpa using keeps o (by simpa using success)

theorem ratioBp_mono {a b : Nat} (denominator : Nat) (le : a ≤ b) :
    ratioBp a denominator ≤ ratioBp b denominator := by
  unfold ratioBp
  split
  · exact Nat.le_refl _
  · exact min_le_min_right _ (halfUp_mono _ (Nat.mul_le_mul_right _ le))

theorem blend_mono {left right left' right' : Nat} (scale share : Nat) (le : left ≤ left')
    (le' : right ≤ right') : blend scale left right share ≤ blend scale left' right' share :=
  halfUp_mono _ (Nat.add_le_add (Nat.mul_le_mul_right _ le) (Nat.mul_le_mul_right _ le'))

theorem WindowLe.reliability {r r' : V3WindowResult} (le : WindowLe r r')
    (minimumSamples optimistic : Nat) :
    r.reliability minimumSamples optimistic ≤ r'.reliability minimumSamples optimistic := by
  unfold V3WindowResult.reliability
  rw [le.samples, le.weight]
  split
  · exact Nat.le_refl _
  · exact ratioBp_mono _ le.successes

structure ReliabilityLe (r r' : ReliabilityResult) : Prop where
  recent : r.recent ≤ r'.recent
  historical : r.historical ≤ r'.historical
  blended : r.blended ≤ r'.blended

theorem sourceReliability_mono {source source' : V3SourceResult}
    (recent : WindowLe source.recent source'.recent)
    (historical : WindowLe source.historical source'.historical)
    (config : QualityProjectionConfig) :
    ReliabilityLe (sourceReliability source config) (sourceReliability source' config) := by
  have recentLe := recent.reliability config.recentMinimumSamples
    config.optimisticReliabilityBasisPoints
  have historicalLe := historical.reliability config.historicalMinimumSamples
    config.optimisticReliabilityBasisPoints
  refine ⟨recentLe, historicalLe, ?_⟩
  show blendRatioU16 _ _ _ ≤ blendRatioU16 _ _ (recentRatioFixed source'.recent.sampleCount)
  rw [recent.samples]
  exact min_le_min_right _ (blend_mono _ _ recentLe historicalLe)

theorem mixReliability_mono {real real' monitoring monitoring' : ReliabilityResult}
    (realLe : real.blended ≤ real'.blended) (monitoringLe : monitoring.blended ≤ monitoring'.blended)
    (config : QualityProjectionConfig) :
    (mixReliability real monitoring config).reliability ≤
      (mixReliability real' monitoring' config).reliability := by
  unfold mixReliability
  dsimp only
  generalize (if config.realSourceEligible then config.realTrafficWeightBasisPoints else 0) =
    realWeight
  generalize (if config.monitoringSourceEligible then config.monitoringWeightBasisPoints else 0) =
    monitoringWeight
  split
  · exact Nat.le_refl _
  · exact min_le_min_right _ (blend_mono _ _ realLe monitoringLe)

/-- Each published reliability is at most the other. -/
structure ReliabilityAtMost (s s' : QualitySummary) : Prop where
  overall : s.reliabilityBasisPoints ≤ s'.reliabilityBasisPoints
  real : s.realReliabilityBasisPoints ≤ s'.realReliabilityBasisPoints
  monitoring : s.monitoringReliabilityBasisPoints ≤ s'.monitoringReliabilityBasisPoints
  realRecent :
    s.realSource.recent.reliabilityBasisPoints ≤ s'.realSource.recent.reliabilityBasisPoints
  realHistorical :
    s.realSource.historical.reliabilityBasisPoints ≤ s'.realSource.historical.reliabilityBasisPoints
  monitoringRecent : s.monitoringSource.recent.reliabilityBasisPoints ≤
    s'.monitoringSource.recent.reliabilityBasisPoints
  monitoringHistorical : s.monitoringSource.historical.reliabilityBasisPoints ≤
    s'.monitoringSource.historical.reliabilityBasisPoints

/-- One observation as a success. -/
def succeed (target o : RoutingObservation) : RoutingObservation :=
  if o = target then { o with outcome := .success } else o

theorem succeed_bare (target o : RoutingObservation) : (succeed target o).bare = o.bare := by
  unfold succeed
  split <;> rfl

theorem succeed_quality {target : RoutingObservation} (failure : target.outcome.isFailure = true)
    (o : RoutingObservation) :
    isQualityOutcome (succeed target o).outcome = isQualityOutcome o.outcome := by
  unfold succeed
  split
  · rename_i same
    subst same
    simp [isQualityOutcome, failure]
  · rfl

theorem succeed_keeps (target o : RoutingObservation) (success : o.outcome = .success) :
    (succeed target o).outcome = .success := by
  unfold succeed
  split
  · rfl
  · exact success

/-- A failure that becomes a success lowers no published reliability. -/
theorem success_never_lowers (scope : String) (config : QualityProjectionConfig)
    (checkpointSequence : Nat) (evaluationAtMs : Int64) (observations : List RoutingObservation)
    {target : RoutingObservation} (failure : target.outcome.isFailure = true) :
    ReliabilityAtMost
      (rebuildQualitySummaryV3At scope observations config checkpointSequence evaluationAtMs)
      (rebuildQualitySummaryV3At scope (observations.map (succeed target)) config
        checkpointSequence evaluationAtMs) := by
  have le (real : Bool) (window : Window) :
      WindowLe (((evaluatedResults scope config evaluationAtMs observations).side real).window window)
        (((evaluatedResults scope config evaluationAtMs
          (observations.map (succeed target))).side real).window window) := by
    rw [evaluatedResults_window, evaluatedResults_window,
      windowSamples_map (succeed_bare target) (succeed_quality failure)]
    exact windowLe_of_successes (succeed_keeps target) _
  have real := sourceReliability_mono (le true .recent) (le true .historical) config
  have monitoring := sourceReliability_mono (le false .recent) (le false .historical) config
  exact ⟨mixReliability_mono real.blended monitoring.blended config, real.blended,
    monitoring.blended, real.recent, real.historical, monitoring.recent, monitoring.historical⟩

/-! ### Responsiveness -/

/-- A window with the latencies of another or smaller ones. -/
structure LatencyLe (r r' : V3WindowResult) : Prop where
  samples : r'.latencySampleCount = r.latencySampleCount
  weight : r'.latencyWeight = r.latencyWeight
  sum : r'.latencySum ≤ r.latencySum

/-- One observation with a latency. -/
def respond (target : RoutingObservation) (latency : Nat) (o : RoutingObservation) :
    RoutingObservation := if o = target then { o with latencyMs := some latency } else o

theorem respond_bare (target : RoutingObservation) (latency : Nat) (o : RoutingObservation) :
    (respond target latency o).bare = o.bare := by
  unfold respond
  split <;> rfl

theorem respond_outcome (target : RoutingObservation) (latency : Nat) (o : RoutingObservation) :
    (respond target latency o).outcome = o.outcome := by
  unfold respond
  split <;> rfl

/-- The latencies after the change: as many, with the same weights, and none larger. -/
theorem latencies_respond {target : RoutingObservation} {latency latency' : Nat}
    (had : target.latencyMs = some latency) (le : latency' ≤ latency)
    (l : List (RoutingObservation × Nat)) :
    List.Forall₂ (fun e' e => e'.1 ≤ e.1 ∧ e'.2 = e.2)
      (latencies (changeSamples (respond target latency') l)) (latencies l) := by
  induction l with
  | nil => exact .nil
  | cons e l ih =>
    obtain ⟨o, weight⟩ := e
    have step : changeSamples (respond target latency') ((o, weight) :: l) =
        (respond target latency' o, weight) :: changeSamples (respond target latency') l := rfl
    rw [step, latencies, latencies, List.filterMap_cons, List.filterMap_cons, ← latencies,
      ← latencies, respond_outcome]
    by_cases success : o.outcome = .success
    · by_cases same : o = target
      · subst same
        simp only [success, if_true, respond, had, Option.map_some]
        exact .cons ⟨le, rfl⟩ ih
      · simp only [success, if_true, respond, same, if_false]
        cases o.latencyMs with
        | none => exact ih
        | some own => exact .cons ⟨Nat.le_refl _, rfl⟩ ih
    · simp only [success, if_false]
      exact ih

theorem weightedSum_le {l' l : List (Nat × Nat)}
    (related : List.Forall₂ (fun e' e => e'.1 ≤ e.1 ∧ e'.2 = e.2) l' l) :
    l'.map (·.2) = l.map (·.2) ∧
      (l'.map fun e => e.1 * e.2).sum ≤ (l.map fun e => e.1 * e.2).sum := by
  induction related with
  | nil => exact ⟨rfl, Nat.le_refl _⟩
  | cons head _ ih =>
    simp only [List.map_cons, List.sum_cons, head.2, ih.1, true_and]
    exact Nat.add_le_add (Nat.mul_le_mul_right _ head.1) ih.2

theorem latencyLe_of_respond {target : RoutingObservation} {latency latency' : Nat}
    (had : target.latencyMs = some latency) (le : latency' ≤ latency)
    (l : List (RoutingObservation × Nat)) :
    LatencyLe (windowOf l) (windowOf (changeSamples (respond target latency') l)) := by
  have related := latencies_respond had le l
  obtain ⟨weights, sums⟩ := weightedSum_le related
  constructor
  · simp only [windowOf, related.length_eq]
  · simp only [windowOf, weights]
  · exact min_le_min_right _ sums

theorem LatencyLe.scaled {r r' : V3WindowResult} (le : LatencyLe r r')
    (minimumSamples optimistic : Nat) :
    r'.latencyScaled minimumSamples optimistic ≤ r.latencyScaled minimumSamples optimistic := by
  unfold V3WindowResult.latencyScaled
  rw [le.samples, le.weight]
  split
  · exact Nat.le_refl _
  · exact min_le_min_right _ (halfUp_mono _ (min_le_min_right _ (Nat.mul_le_mul_right _ le.sum)))

/-- The latency of a source is at most another, and weighs the windows as that does. -/
structure SourceLatencyLe (l l' : LatencyResult) : Prop where
  recent : l'.recentScaled ≤ l.recentScaled
  historical : l'.historicalScaled ≤ l.historicalScaled
  ratio : l'.recentRatio = l.recentRatio

theorem sourceLatency_mono {source source' : V3SourceResult}
    (recent : LatencyLe source.recent source'.recent)
    (historical : LatencyLe source.historical source'.historical)
    (config : QualityProjectionConfig) :
    SourceLatencyLe (sourceLatency source config) (sourceLatency source' config) := by
  refine ⟨recent.scaled _ _, historical.scaled _ _, ?_⟩
  exact congrArg recentRatioFixed recent.samples

theorem mixLatency_mono {real real' monitoring monitoring' : LatencyResult}
    (realLe : SourceLatencyLe real real') (monitoringLe : SourceLatencyLe monitoring monitoring')
    (realWeight monitoringWeight optimistic : Nat) :
    (mixLatency real' monitoring' realWeight monitoringWeight optimistic).blendedScaled ≤
      (mixLatency real monitoring realWeight monitoringWeight optimistic).blendedScaled := by
  unfold mixLatency
  dsimp only
  split
  · exact Nat.le_refl _
  · have blended {left right left' right' : Nat} (share : Nat) (le : left ≤ left')
        (le' : right ≤ right') :
        blendScaledU64 left right share ≤ blendScaledU64 left' right' share :=
      min_le_min_right _ (blend_mono _ _ le le')
    rw [realLe.ratio, monitoringLe.ratio]
    exact blended _ (blended _ realLe.recent monitoringLe.recent)
      (blended _ realLe.historical monitoringLe.historical)

theorem responsivenessScoreV3_antitone {latency latency' : Nat} (le : latency' ≤ latency) :
    responsivenessScoreV3 latency ≤ responsivenessScoreV3 latency' := by
  refine Nat.div_le_div_right (Nat.mul_le_mul_right _ (Nat.sub_le_sub_left ?_ _))
  exact min_le_min_right _ le

theorem scaledLatencyMs_mono {value value' : Nat} (le : value' ≤ value) :
    scaledLatencyMs value' ≤ scaledLatencyMs value := by
  refine min_le_min_right _ (Nat.div_le_div_right (min_le_min_right _ ?_))
  exact Nat.add_le_add_right le _

/-- How the sources are weighed is for the config alone to say. -/
theorem mixReliability_weights (real monitoring real' monitoring' : ReliabilityResult)
    (config : QualityProjectionConfig) :
    (mixReliability real' monitoring' config).realWeight =
        (mixReliability real monitoring config).realWeight ∧
      (mixReliability real' monitoring' config).monitoringWeight =
        (mixReliability real monitoring config).monitoringWeight := by
  unfold mixReliability
  dsimp only
  generalize (if config.realSourceEligible then config.realTrafficWeightBasisPoints else 0) =
    realWeight
  generalize (if config.monitoringSourceEligible then config.monitoringWeightBasisPoints else 0) =
    monitoringWeight
  split <;> exact ⟨rfl, rfl⟩

/-- The latency that a summary publishes, of both sources and windows. -/
def mixedLatency (config : QualityProjectionConfig) (r : V3Results) : LatencyResult :=
  let mixed := mixReliability (sourceReliability r.real config)
    (sourceReliability r.monitoring config) config
  mixLatency (sourceLatency r.real config) (sourceLatency r.monitoring config) mixed.realWeight
    mixed.monitoringWeight config.optimisticLatencyMs

theorem mixedLatency_mono {config : QualityProjectionConfig} {r r' : V3Results}
    (lower : ∀ real window, LatencyLe ((r.side real).window window) ((r'.side real).window window)) :
    (mixedLatency config r').blendedScaled ≤ (mixedLatency config r).blendedScaled := by
  have real : SourceLatencyLe (sourceLatency r.real config) (sourceLatency r'.real config) :=
    sourceLatency_mono (lower true .recent) (lower true .historical) config
  have monitoring : SourceLatencyLe (sourceLatency r.monitoring config)
      (sourceLatency r'.monitoring config) :=
    sourceLatency_mono (lower false .recent) (lower false .historical) config
  have weights := mixReliability_weights (sourceReliability r.real config)
    (sourceReliability r.monitoring config) (sourceReliability r'.real config)
    (sourceReliability r'.monitoring config) config
  unfold mixedLatency
  dsimp only
  rw [weights.1, weights.2]
  exact mixLatency_mono real monitoring _ _ _

/-- A smaller latency of a success lowers no responsiveness. -/
theorem latency_never_lowers (scope : String) (config : QualityProjectionConfig)
    (checkpointSequence : Nat) (evaluationAtMs : Int64) (observations : List RoutingObservation)
    {target : RoutingObservation} {latency latency' : Nat}
    (had : target.latencyMs = some latency) (le : latency' ≤ latency) :
    (rebuildQualitySummaryV3At scope observations config checkpointSequence
        evaluationAtMs).responsivenessBasisPoints ≤
      (rebuildQualitySummaryV3At scope (observations.map (respond target latency')) config
        checkpointSequence evaluationAtMs).responsivenessBasisPoints := by
  have quality (o : RoutingObservation) : isQualityOutcome (respond target latency' o).outcome =
      isQualityOutcome o.outcome := by rw [respond_outcome]
  have lower (real : Bool) (window : Window) :
      LatencyLe (((evaluatedResults scope config evaluationAtMs observations).side real).window
          window)
        (((evaluatedResults scope config evaluationAtMs
          (observations.map (respond target latency'))).side real).window window) := by
    rw [evaluatedResults_window, evaluatedResults_window,
      windowSamples_map (respond_bare target latency') quality]
    exact latencyLe_of_respond had le _
  exact responsivenessScoreV3_antitone (scaledLatencyMs_mono (mixedLatency_mono lower))

end RelayPool.Quality
