import RelayPool.Quality.Projection

/-! A key's quality summary.

Each source has a reliability and a latency in either window, or the optimistic value
while the window has too few samples; the windows are blended by the number of recent
samples, the sources mixed by their weights. All of it is in integers, every quotient
rounded half up. -/
namespace RelayPool.Quality
open Ranking Rounding

def qualityProjectorVersion : String := "routing_quality_v3"

/-- In units of a millionth. -/
def qualityRatioScale : Nat := 1000000

/-- In units of a thousandth of a millisecond. -/
def qualityLatencyScale : Nat := 1000

def basisPointsScale : Nat := 10000

def responsivenessScoreCapMs : Nat := 120000

def saturatingMul64 (a b : Nat) : Nat := min (a * b) (2 ^ 64 - 1)

/-! ### Ratios -/

def ratioBp (numerator denominator : Nat) : Nat :=
  if denominator = 0 then 0 else min (halfUp (numerator * 10000) denominator) 10000

/-- The share of the recent window by its samples, a nine tenths at most. -/
def recentRatioFixed (count : Nat) : Nat :=
  if count = 0 then 0
  else min (halfUp (qualityRatioScale * count) (count + 20)) (qualityRatioScale * 9 / 10)

def ratioToBasisPoints (value : Nat) : Nat :=
  min (halfUp (min value qualityRatioScale * basisPointsScale) qualityRatioScale) basisPointsScale

def recentRatioBasisPoints (count : Nat) : Nat := ratioToBasisPoints (recentRatioFixed count)

/-- Two values mixed by a weight of the left one, on a scale. -/
def blend (scale left right leftWeight : Nat) : Nat :=
  halfUp (left * leftWeight + right * (scale - min leftWeight scale)) scale

def blendBasisPoints (left right leftWeight : Nat) : Nat :=
  min (blend basisPointsScale left right leftWeight) 10000

def blendRatioU16 (left right leftWeight : Nat) : Nat :=
  min (blend qualityRatioScale left right leftWeight) 10000

def blendScaledU64 (left right leftWeight : Nat) : Nat :=
  min (blend qualityRatioScale left right leftWeight) (2 ^ 64 - 1)

def scaledLatencyMs (value : Nat) : Nat :=
  min (saturatingAdd64 value (qualityLatencyScale / 2) / qualityLatencyScale) (2 ^ 32 - 1)

def responsivenessScoreV3 (latencyMs : Nat) : Nat :=
  let latency := min latencyMs responsivenessScoreCapMs
  (responsivenessScoreCapMs - latency) * 10000 / responsivenessScoreCapMs

/-! ### Windows and sources -/

def V3WindowResult.reliability (r : V3WindowResult) (minimumSamples optimistic : Nat) : Nat :=
  if r.sampleCount < minimumSamples ∨ r.effectiveWeight = 0 then optimistic
  else ratioBp r.successWeight r.effectiveWeight

def V3WindowResult.latencyScaled (r : V3WindowResult) (minimumSamples optimistic : Nat) : Nat :=
  if r.latencySampleCount < minimumSamples ∨ r.latencyWeight = 0 then
    saturatingMul64 optimistic qualityLatencyScale
  else
    let numerator := saturatingMul128 r.latencySum qualityLatencyScale
    min (halfUp numerator r.latencyWeight) (2 ^ 64 - 1)

structure ReliabilityResult where
  recent : Nat
  historical : Nat
  blended : Nat
  ready : Bool
deriving DecidableEq, Repr

def sourceReliability (source : V3SourceResult) (config : QualityProjectionConfig) :
    ReliabilityResult :=
  let recent := source.recent.reliability config.recentMinimumSamples
    config.optimisticReliabilityBasisPoints
  let historical := source.historical.reliability config.historicalMinimumSamples
    config.optimisticReliabilityBasisPoints
  { recent, historical
    blended := blendRatioU16 recent historical (recentRatioFixed source.recent.sampleCount)
    ready := decide (config.recentMinimumSamples ≤ source.recent.sampleCount) ||
      decide (config.historicalMinimumSamples ≤ source.historical.sampleCount) }

structure LatencyResult where
  recentScaled : Nat
  historicalScaled : Nat
  blendedScaled : Nat
  recentRatio : Nat
  recentReady : Bool
  historicalReady : Bool
deriving DecidableEq, Repr

def sourceLatency (source : V3SourceResult) (config : QualityProjectionConfig) : LatencyResult :=
  let recentScaled := source.recent.latencyScaled config.recentMinimumSamples
    config.optimisticLatencyMs
  let historicalScaled := source.historical.latencyScaled config.historicalMinimumSamples
    config.optimisticLatencyMs
  let recentRatio := recentRatioFixed source.recent.latencySampleCount
  { recentScaled, historicalScaled, recentRatio
    blendedScaled := blendScaledU64 recentScaled historicalScaled recentRatio
    recentReady := decide (config.recentMinimumSamples ≤ source.recent.latencySampleCount)
    historicalReady :=
      decide (config.historicalMinimumSamples ≤ source.historical.latencySampleCount) }

/-- What the sources come to together, with the weight each has in it. -/
structure MixedReliability where
  reliability : Nat
  realWeight : Nat
  monitoringWeight : Nat
  unavailable : Bool
deriving DecidableEq, Repr

def effectiveReal (realWeight total : Nat) : Nat := halfUp (realWeight * 10000) total

def mixReliability (real monitoring : ReliabilityResult) (config : QualityProjectionConfig) :
    MixedReliability :=
  let realWeight := if config.realSourceEligible then config.realTrafficWeightBasisPoints else 0
  let monitoringWeight :=
    if config.monitoringSourceEligible then config.monitoringWeightBasisPoints else 0
  let total := realWeight + monitoringWeight
  if total = 0 then ⟨0, 0, 0, true⟩
  else
    let effective := effectiveReal realWeight total
    ⟨blendBasisPoints real.blended monitoring.blended effective, effective, 10000 - effective, false⟩

def mixLatency (real monitoring : LatencyResult) (realWeight monitoringWeight : Nat)
    (optimisticLatencyMs : Nat) : LatencyResult :=
  let total := realWeight + monitoringWeight
  if total = 0 then
    let optimistic := saturatingMul64 optimisticLatencyMs qualityLatencyScale
    ⟨optimistic, optimistic, optimistic, 0, false, false⟩
  else
    let effective := effectiveReal realWeight total
    let sourceRatio := saturatingMul64 effective (qualityRatioScale / 10000)
    let recentRatio := blendScaledU64 real.recentRatio monitoring.recentRatio sourceRatio
    let recentScaled := blendScaledU64 real.recentScaled monitoring.recentScaled sourceRatio
    let historicalScaled :=
      blendScaledU64 real.historicalScaled monitoring.historicalScaled sourceRatio
    { recentScaled, historicalScaled, recentRatio
      blendedScaled := blendScaledU64 recentScaled historicalScaled recentRatio
      recentReady := (decide (effective = 0) || real.recentReady) &&
        (decide (effective = 10000) || monitoring.recentReady)
      historicalReady := (decide (effective = 0) || real.historicalReady) &&
        (decide (effective = 10000) || monitoring.historicalReady) }

def combinedLatencyCoverage (recent historical : V3WindowResult) : Nat :=
  let effectiveWeight := saturatingAdd64 recent.effectiveWeight historical.effectiveWeight
  let latencyWeight := saturatingAdd64 recent.latencyWeight historical.latencyWeight
  if effectiveWeight = 0 then 0
  else min (latencyWeight * basisPointsScale / effectiveWeight) basisPointsScale

/-! ### The summary -/

structure QualitySourceWindowSummary where
  sampleCount : Nat
  effectiveWeight : Nat
  successWeight : Nat
  failureWeight : Nat
  reliabilityBasisPoints : Nat
  minimumMet : Bool
deriving DecidableEq, Repr

structure QualitySourceSummary where
  eligible : Bool
  effectiveWeightBasisPoints : Nat
  recent : QualitySourceWindowSummary
  historical : QualitySourceWindowSummary
  blendedReliabilityBasisPoints : Nat
deriving DecidableEq, Repr

structure QualityLatencySourceSummary where
  recentSampleCount : Nat
  recentEffectiveWeight : Nat
  recentWeightedLatencyMs : Nat
  recentMinimumMet : Bool
  historicalSampleCount : Nat
  historicalEffectiveWeight : Nat
  historicalWeightedLatencyMs : Nat
  historicalMinimumMet : Bool
  blendedWeightedLatencyMs : Nat
deriving DecidableEq, Repr

structure QualityLatencySummary where
  recentSampleCount : Nat
  recentEffectiveWeight : Nat
  recentWeightedLatencyMs : Nat
  recentMinimumMet : Bool
  historicalSampleCount : Nat
  historicalEffectiveWeight : Nat
  historicalWeightedLatencyMs : Nat
  historicalMinimumMet : Bool
  blendedWeightedLatencyMs : Nat
  realSourceWeightBasisPoints : Nat
  monitoringSourceWeightBasisPoints : Nat
  realSource : QualityLatencySourceSummary
  monitoringSource : QualityLatencySourceSummary
deriving DecidableEq, Repr

inductive MonitoringSourceStatus where
  | comparable
  | noEvidence
  | incomparable
  | weightZero
  | disabled
deriving DecidableEq, Repr

structure QualitySummary where
  scope : String
  projectorVersion : String
  observationCount : Nat
  effectiveMassBasisPoints : Nat
  successMassBasisPoints : Nat
  failureMassBasisPoints : Nat
  reliabilityBasisPoints : Nat
  latencyCoverageBasisPoints : Nat
  p95LatencyMs : Option Nat
  responsivenessBasisPoints : Nat
  recentObservationCount : Nat
  recentEffectiveMassBasisPoints : Nat
  recentSuccessMassBasisPoints : Nat
  recentFailureMassBasisPoints : Nat
  recentReliabilityBasisPoints : Nat
  recentReliabilityWeightBasisPoints : Nat
  recentResponsivenessWeightBasisPoints : Nat
  recentP95LatencyMs : Option Nat
  recentLatencyCoverageBasisPoints : Nat
  recentResponsivenessBasisPoints : Nat
  historicalObservationCount : Nat
  historicalEffectiveMassBasisPoints : Nat
  historicalSuccessMassBasisPoints : Nat
  historicalFailureMassBasisPoints : Nat
  historicalReliabilityBasisPoints : Nat
  historicalReliabilityWeightBasisPoints : Nat
  historicalResponsivenessWeightBasisPoints : Nat
  historicalP95LatencyMs : Option Nat
  historicalLatencyCoverageBasisPoints : Nat
  historicalResponsivenessBasisPoints : Nat
  historicalAgeWindowDays : Nat
  historicalHalfLifeDays : Nat
  lastEventAtMs : Option Int64
  checkpointSequence : Nat
  qualityPolicyRevision : Nat
  algorithmVersion : String
  weightScale : Nat
  ratioScale : Nat
  recentMinimumSamples : Nat
  historicalMinimumSamples : Nat
  optimisticReliabilityBasisPoints : Nat
  optimisticLatencyMs : Nat
  realReliabilityBasisPoints : Nat
  monitoringReliabilityBasisPoints : Nat
  realSourceWeightBasisPoints : Nat
  monitoringSourceWeightBasisPoints : Nat
  realSourceEligible : Bool
  monitoringSourceEligible : Bool
  monitoringSourceStatus : MonitoringSourceStatus
  realSource : QualitySourceSummary
  monitoringSource : QualitySourceSummary
  latency : QualityLatencySummary
  qualityUnavailable : Bool
  qualityBasis : String
  lastRealRouteSampleAtMs : Option Int64
  idleRealRouteSample : String
  eventTimeDiagnostic : Option String
  selectedObservationIds : List String
deriving DecidableEq, Repr

def qualityWindowSummary (window : V3WindowResult) (reliability minimumSamples : Nat) :
    QualitySourceWindowSummary :=
  ⟨window.sampleCount, window.effectiveWeight, window.successWeight, window.failureWeight,
    reliability, decide (minimumSamples ≤ window.sampleCount)⟩

def qualitySourceSummary (source : V3SourceResult) (reliability : ReliabilityResult)
    (eligible : Bool) (effectiveWeightBasisPoints : Nat) (config : QualityProjectionConfig) :
    QualitySourceSummary :=
  ⟨eligible, effectiveWeightBasisPoints,
    qualityWindowSummary source.recent reliability.recent config.recentMinimumSamples,
    qualityWindowSummary source.historical reliability.historical config.historicalMinimumSamples,
    reliability.blended⟩

def qualityLatencySourceSummary (source : V3SourceResult) (latency : LatencyResult) :
    QualityLatencySourceSummary where
  recentSampleCount := source.recent.latencySampleCount
  recentEffectiveWeight := source.recent.latencyWeight
  recentWeightedLatencyMs := scaledLatencyMs latency.recentScaled
  recentMinimumMet := latency.recentReady
  historicalSampleCount := source.historical.latencySampleCount
  historicalEffectiveWeight := source.historical.latencyWeight
  historicalWeightedLatencyMs := scaledLatencyMs latency.historicalScaled
  historicalMinimumMet := latency.historicalReady
  blendedWeightedLatencyMs := scaledLatencyMs latency.blendedScaled

/-- A probe that could count. -/
def monitoringEvidence (scope : String) (config : QualityProjectionConfig) (evaluationAtMs : Int64)
    (o : RoutingObservation) : Bool :=
  inCurrentScope scope config o && decide (o.source = .activeProbe) &&
    decide (o.trafficEquivalence ≠ .anonymous) && o.boundaryCrossed && isQualityOutcome o.outcome &&
    decide (o.eventTimeStatus = .valid) && decide (o.eventAtMs ≤ evaluationAtMs) &&
    decide (o.correlationId ≠ "")

def monitoringSourceStatus (scope : String) (config : QualityProjectionConfig)
    (evaluationAtMs : Int64) (observations : List RoutingObservation) : MonitoringSourceStatus :=
  if !config.monitoringSourceEligible then .disabled
  else if config.monitoringWeightBasisPoints = 0 then .weightZero
  else if !observations.any (monitoringEvidence scope config evaluationAtMs) then .noEvidence
  else .comparable

/-- A sum over the four windows. -/
def overWindows (r : V3Results) (f : V3WindowResult → Nat) : Nat :=
  saturatingAdd64 (saturatingAdd64 (saturatingAdd64 (f r.real.recent) (f r.real.historical))
    (f r.monitoring.recent)) (f r.monitoring.historical)

/-- The time of evaluation, never before the epoch. -/
def evaluated (evaluationAtMs : Int64) : Int64 := if evaluationAtMs < 0 then 0 else evaluationAtMs

def rebuildQualitySummaryV3At (scope : String) (observations : List RoutingObservation)
    (config : QualityProjectionConfig) (checkpointSequence : Nat) (evaluationAtMs : Int64) :
    QualitySummary :=
  let evaluationAtMs := evaluated evaluationAtMs
  let rows := selectedRows scope config observations
  let r := results evaluationAtMs rows
  let hadInvalid := hadInvalidRealEventTime scope config observations
  let realReliability := sourceReliability r.real config
  let monitoringReliability := sourceReliability r.monitoring config
  let mixed := mixReliability realReliability monitoringReliability config
  let realLatency := sourceLatency r.real config
  let monitoringLatency := sourceLatency r.monitoring config
  let latency := mixLatency realLatency monitoringLatency mixed.realWeight mixed.monitoringWeight
    config.optimisticLatencyMs
  { scope
    projectorVersion := qualityProjectorVersion
    observationCount := saturatingAdd64 r.real.selectedCount r.monitoring.selectedCount
    effectiveMassBasisPoints := overWindows r (·.effectiveWeight)
    successMassBasisPoints := overWindows r (·.successWeight)
    failureMassBasisPoints := overWindows r (·.failureWeight)
    reliabilityBasisPoints := mixed.reliability
    latencyCoverageBasisPoints := max (combinedLatencyCoverage r.real.recent r.real.historical)
      (combinedLatencyCoverage r.monitoring.recent r.monitoring.historical)
    p95LatencyMs := none
    responsivenessBasisPoints := responsivenessScoreV3 (scaledLatencyMs latency.blendedScaled)
    recentObservationCount := r.recentCanonicalCount
    recentEffectiveMassBasisPoints :=
      saturatingAdd64 r.real.recent.effectiveWeight r.monitoring.recent.effectiveWeight
    recentSuccessMassBasisPoints :=
      saturatingAdd64 r.real.recent.successWeight r.monitoring.recent.successWeight
    recentFailureMassBasisPoints :=
      saturatingAdd64 r.real.recent.failureWeight r.monitoring.recent.failureWeight
    recentReliabilityBasisPoints := realReliability.recent
    recentReliabilityWeightBasisPoints := recentRatioBasisPoints r.recentCanonicalCount
    recentResponsivenessWeightBasisPoints := ratioToBasisPoints latency.recentRatio
    recentP95LatencyMs := none
    recentLatencyCoverageBasisPoints := combinedLatencyCoverage r.real.recent r.monitoring.recent
    recentResponsivenessBasisPoints := responsivenessScoreV3 (scaledLatencyMs latency.recentScaled)
    historicalObservationCount := r.historicalCanonicalCount
    historicalEffectiveMassBasisPoints :=
      saturatingAdd64 r.real.historical.effectiveWeight r.monitoring.historical.effectiveWeight
    historicalSuccessMassBasisPoints :=
      saturatingAdd64 r.real.historical.successWeight r.monitoring.historical.successWeight
    historicalFailureMassBasisPoints :=
      saturatingAdd64 r.real.historical.failureWeight r.monitoring.historical.failureWeight
    historicalReliabilityBasisPoints := realReliability.historical
    historicalReliabilityWeightBasisPoints :=
      10000 - recentRatioBasisPoints r.recentCanonicalCount
    historicalResponsivenessWeightBasisPoints := 10000 - ratioToBasisPoints latency.recentRatio
    historicalP95LatencyMs := none
    historicalLatencyCoverageBasisPoints :=
      combinedLatencyCoverage r.real.historical r.monitoring.historical
    historicalResponsivenessBasisPoints :=
      responsivenessScoreV3 (scaledLatencyMs latency.historicalScaled)
    historicalAgeWindowDays := 30
    historicalHalfLifeDays := 1
    lastEventAtMs := r.real.lastValidEventAtMs.or r.monitoring.lastValidEventAtMs
    checkpointSequence
    qualityPolicyRevision := config.qualityPolicyRevision
    algorithmVersion := qualityProjectorVersion
    weightScale := qualityWeightScale
    ratioScale := qualityRatioScale
    recentMinimumSamples := config.recentMinimumSamples
    historicalMinimumSamples := config.historicalMinimumSamples
    optimisticReliabilityBasisPoints := config.optimisticReliabilityBasisPoints
    optimisticLatencyMs := config.optimisticLatencyMs
    realReliabilityBasisPoints := realReliability.blended
    monitoringReliabilityBasisPoints := monitoringReliability.blended
    realSourceWeightBasisPoints := mixed.realWeight
    monitoringSourceWeightBasisPoints := mixed.monitoringWeight
    realSourceEligible := config.realSourceEligible
    monitoringSourceEligible := config.monitoringSourceEligible
    monitoringSourceStatus := monitoringSourceStatus scope config evaluationAtMs observations
    realSource := qualitySourceSummary r.real realReliability config.realSourceEligible
      mixed.realWeight config
    monitoringSource := qualitySourceSummary r.monitoring monitoringReliability
      config.monitoringSourceEligible mixed.monitoringWeight config
    latency :=
      { recentSampleCount := saturatingAdd64 r.real.recent.latencySampleCount
          r.monitoring.recent.latencySampleCount
        recentEffectiveWeight := saturatingAdd64 r.real.recent.latencyWeight
          r.monitoring.recent.latencyWeight
        recentWeightedLatencyMs := scaledLatencyMs latency.recentScaled
        recentMinimumMet := latency.recentReady
        historicalSampleCount := saturatingAdd64 r.real.historical.latencySampleCount
          r.monitoring.historical.latencySampleCount
        historicalEffectiveWeight := saturatingAdd64 r.real.historical.latencyWeight
          r.monitoring.historical.latencyWeight
        historicalWeightedLatencyMs := scaledLatencyMs latency.historicalScaled
        historicalMinimumMet := latency.historicalReady
        blendedWeightedLatencyMs := scaledLatencyMs latency.blendedScaled
        realSourceWeightBasisPoints := mixed.realWeight
        monitoringSourceWeightBasisPoints := mixed.monitoringWeight
        realSource := qualityLatencySourceSummary r.real realLatency
        monitoringSource := qualityLatencySourceSummary r.monitoring monitoringLatency }
    qualityUnavailable := mixed.unavailable
    qualityBasis :=
      if mixed.unavailable then "QualityUnavailable"
      else if realReliability.ready || monitoringReliability.ready then "Observed"
      else "OptimisticInsufficientSamples"
    lastRealRouteSampleAtMs := r.real.lastValidEventAtMs
    idleRealRouteSample := idleRealRouteSample hadInvalid r.real evaluationAtMs
    eventTimeDiagnostic := if hadInvalid then some "event_time_missing_or_invalid" else none
    selectedObservationIds := sortBy compare (rows.map (·.id)) }

/-! ### The idle flag -/

section Idle
variable (scope : String) (config : QualityProjectionConfig) (evaluationAtMs : Int64)
  (observations : List RoutingObservation)

/-- The real requests that count in a window. -/
def countedReal : List RoutingObservation :=
  countedRows (evaluated evaluationAtMs) true (selectedRows scope config observations)

/-- How old a row is at the evaluation. -/
def evaluatedAge (o : RoutingObservation) : Int :=
  ((evaluated evaluationAtMs).saturatingSub o.eventAtMs).toInt

/-- Whether the flag says what the recent window holds. -/
structure IdleAgrees (summary : QualitySummary) : Prop where
  busy : summary.idleRealRouteSample = "false" ↔ 1 ≤ summary.realSource.recent.sampleCount
  idle : summary.idleRealRouteSample = "true" ↔ summary.realSource.recent.sampleCount = 0

variable {scope config evaluationAtMs observations}

theorem hadInvalid_false (valid : ∀ o ∈ observations, o.source = .realRequest →
    o.eventTimeStatus = .valid) : hadInvalidRealEventTime scope config observations = false := by
  have considered_sub : ∀ o ∈ considered scope config observations, o ∈ observations :=
    fun o mem => (List.mem_filter.mp mem).1
  have fine : ∀ o ∈ observations, invalidRealEventTime o = false := fun o mem => by
    by_cases real : o.source = .realRequest
    · simp [invalidRealEventTime, real, valid o mem real]
    · simp [invalidRealEventTime, real]
  simp only [hadInvalidRealEventTime, Bool.or_eq_false_iff, List.any_eq_false,
    Bool.not_eq_true]
  exact ⟨fun o mem => fine o (considered_sub o mem), fun o mem => fine o (selectedRows_sub mem)⟩

/-- The recent window of real requests holds a sample if one of them is at most a day old. -/
theorem recent_samples_iff : 1 ≤ (results (evaluated evaluationAtMs)
      (selectedRows scope config observations)).real.recent.sampleCount ↔
    ∃ o ∈ countedReal scope config evaluationAtMs observations,
      evaluatedAge evaluationAtMs o ≤ qualityRecentWindowMs := by
  have sums : (results (evaluated evaluationAtMs)
      (selectedRows scope config observations)).real.recent = windowOf _ :=
    results_sums (evaluated evaluationAtMs) (selectedRows scope config observations) true .recent
  have count (l : List (RoutingObservation × Nat)) :
      1 ≤ (windowOf l).sampleCount ↔ ∃ e, e ∈ l := by
    cases l with
    | nil => simp [windowOf]
    | cons e l =>
      simp only [windowOf, List.length_cons]
      exact iff_of_true (by omega) ⟨e, List.mem_cons_self⟩
  rw [sums, count]
  constructor
  · rintro ⟨⟨o, weight⟩, mem⟩
    obtain ⟨selected, place', real⟩ := mem_placed.mp mem
    refine ⟨o, List.mem_filter.mpr ⟨selected, ?_⟩, (place_some place').2.2.2.mp rfl⟩
    simp [place', real]
  · rintro ⟨o, mem, young⟩
    obtain ⟨selected, counts⟩ := List.mem_filter.mp mem
    simp only [Bool.and_eq_true, beq_iff_eq] at counts
    obtain ⟨⟨window, weight⟩, place'⟩ := Option.isSome_iff_exists.mp counts.1
    have recent := (place_some place').2.2.2.mpr young
    subst recent
    exact ⟨(o, weight), mem_placed.mpr ⟨selected, place', counts.2⟩⟩

/-- With valid event times the flag tells the age of the newest sample. -/
theorem idle_eq (valid : ∀ o ∈ observations, o.source = .realRequest →
    o.eventTimeStatus = .valid) (checkpointSequence : Nat) :
    (rebuildQualitySummaryV3At scope observations config checkpointSequence
        evaluationAtMs).idleRealRouteSample =
      if ∀ o ∈ countedReal scope config evaluationAtMs observations,
          (qualityRecentWindowMs : Int) ≤ evaluatedAge evaluationAtMs o then "true" else "false" := by
  have last : Latest (countedReal scope config evaluationAtMs observations)
      (results (evaluated evaluationAtMs)
        (selectedRows scope config observations)).real.lastValidEventAtMs :=
    results_last (evaluated evaluationAtMs) (selectedRows scope config observations) true
  show idleRealRouteSample (hadInvalidRealEventTime scope config observations) _ _ = _
  have never : (results (evaluated evaluationAtMs)
      (selectedRows scope config observations)).real.hadInvalidEventTime = false :=
    results_hadInvalid (evaluated evaluationAtMs) (selectedRows scope config observations) true
  rw [hadInvalid_false valid, idleRealRouteSample, never, Bool.or_self, if_neg nofun]
  cases newest : (results (evaluated evaluationAtMs)
      (selectedRows scope config observations)).real.lastValidEventAtMs with
  | none =>
    rw [newest] at last
    have none : countedReal scope config evaluationAtMs observations = [] := last
    simp [none]
  | some time =>
    rw [newest] at last
    obtain ⟨⟨o, mem, rfl⟩, all⟩ := last
    have least : (∀ o ∈ countedReal scope config evaluationAtMs observations,
        (qualityRecentWindowMs : Int) ≤ evaluatedAge evaluationAtMs o) ↔
          (qualityRecentWindowMs : Int) ≤ evaluatedAge evaluationAtMs o := by
      refine ⟨fun each => each o mem, fun old o' mem' => old.trans ?_⟩
      have earlier := Int64.le_iff_toInt_le.mp (all o' mem')
      simp only [evaluatedAge, Int64.toInt_saturatingSub]
      omega
    rw [if_congr least rfl rfl]
    show (if decide ((qualityRecentWindowMs : Int) ≤ evaluatedAge evaluationAtMs o) = true
      then "true" else "false") = _
    simp only [decide_eq_true_eq]

/-- With no recent sample all are old, so only an old one among the recent ones is in doubt. -/
theorem idleAgrees_of_flag {summary : QualitySummary} {young old : Prop} [Decidable old]
    (samples : 1 ≤ summary.realSource.recent.sampleCount ↔ young)
    (flag : summary.idleRealRouteSample = if old then "true" else "false") (none : ¬ young → old) :
    IdleAgrees summary ↔ (old → ¬ young) := by
  have empty : summary.realSource.recent.sampleCount = 0 ↔ ¬ young := by
    rw [← samples, Nat.not_le, Nat.lt_one_iff]
  constructor
  · intro agrees isOld
    rw [if_pos isOld] at flag
    exact empty.mp (agrees.idle.mp flag)
  · intro apart
    by_cases isOld : old
    · rw [if_pos isOld] at flag
      have notYoung := apart isOld
      constructor
      · rw [flag, samples]
        exact iff_of_false (by decide) notYoung
      · rw [flag, empty]
        exact iff_of_true rfl notYoung
    · rw [if_neg isOld] at flag
      have isYoung := Classical.not_not.mp fun notYoung => isOld (none notYoung)
      constructor
      · rw [flag, samples]
        exact iff_of_true rfl isYoung
      · rw [flag, empty]
        exact iff_of_false (by decide) (not_not_intro isYoung)

/-- The idle flag agrees with the recent window unless an event of exactly a day ago is the
newest sample of a real request. -/
theorem idle_agrees_iff (scope : String) (config : QualityProjectionConfig)
    (evaluationAtMs : Int64) (checkpointSequence : Nat) (observations : List RoutingObservation)
    (valid : ∀ o ∈ observations, o.source = .realRequest → o.eventTimeStatus = .valid) :
    IdleAgrees (rebuildQualitySummaryV3At scope observations config checkpointSequence
      evaluationAtMs) ↔
      ∀ o ∈ countedReal scope config evaluationAtMs observations,
        evaluatedAge evaluationAtMs o = qualityRecentWindowMs →
          ∃ newer ∈ countedReal scope config evaluationAtMs observations,
            o.eventAtMs < newer.eventAtMs := by
  let summary := rebuildQualitySummaryV3At scope observations config checkpointSequence
    evaluationAtMs
  have samples : 1 ≤ summary.realSource.recent.sampleCount ↔
      ∃ o ∈ countedReal scope config evaluationAtMs observations,
        evaluatedAge evaluationAtMs o ≤ qualityRecentWindowMs := recent_samples_iff
  have flag : summary.idleRealRouteSample =
      if ∀ o ∈ countedReal scope config evaluationAtMs observations,
        (qualityRecentWindowMs : Int) ≤ evaluatedAge evaluationAtMs o then "true" else "false" :=
    idle_eq valid checkpointSequence
  rw [idleAgrees_of_flag samples flag fun none o mem =>
    (Int.lt_of_not_ge fun young => none ⟨o, mem, young⟩).le]
  constructor
  · intro apart o mem exactly
    by_contra newest
    refine apart (fun o' mem' => ?_) ⟨o, mem, exactly.le⟩
    have earlier := Int64.not_lt.mp fun later => newest ⟨o', mem', later⟩
    have earlier := Int64.le_iff_toInt_le.mp earlier
    simp only [evaluatedAge, Int64.toInt_saturatingSub] at exactly ⊢
    omega
  · rintro newer old ⟨o, mem, young⟩
    have exactly := le_antisymm young (old o mem)
    obtain ⟨o', mem', later⟩ := newer o mem exactly
    have later := Int64.lt_iff_toInt_lt.mp later
    have old' := old o' mem'
    simp only [evaluatedAge, Int64.toInt_saturatingSub] at exactly old'
    have window : (qualityRecentWindowMs : Int) = 86400000 := rfl
    omega

/-- A real request of the epoch, whose only attempt succeeded. -/
def epochRequest : RoutingObservation where
  id := "observation-1"
  eventAtMs := 0
  scope := { stationId := none, stationKeyId := some "key-1", model := none }
  source := .realRequest
  trafficEquivalence := .exactRequest
  outcome := .success
  latencyMs := some 100
  correlationId := "request-1"
  attemptIndex := 0
  stationKeyLifecycleRevision := 1
  clusterFinalized := true
  clusterExpectedAttemptCount := 1
  boundaryCrossed := true
  eventTimeStatus := .valid

def plainConfig : QualityProjectionConfig where
  qualityPolicyRevision := 1
  recentMinimumSamples := 20
  historicalMinimumSamples := 50
  optimisticReliabilityBasisPoints := 9500
  optimisticLatencyMs := 2500
  realTrafficWeightBasisPoints := 7000
  monitoringWeightBasisPoints := 3000
  realSourceEligible := true
  monitoringSourceEligible := true
  currentLifecycleRevision := none

/-- A request of exactly a day ago is a recent sample of a key that counts as idle. -/
theorem idle_with_a_recent_sample :
    (∀ o ∈ [epochRequest], o.source = .realRequest → o.eventTimeStatus = .valid) ∧
      (rebuildQualitySummaryV3At "station_key:key-1" [epochRequest] plainConfig 1
        86400000).realSource.recent.sampleCount = 1 ∧
      (rebuildQualitySummaryV3At "station_key:key-1" [epochRequest] plainConfig 1
        86400000).idleRealRouteSample = "true" ∧
      ¬ IdleAgrees (rebuildQualitySummaryV3At "station_key:key-1" [epochRequest] plainConfig 1
        86400000) := by
  have samples : (rebuildQualitySummaryV3At "station_key:key-1" [epochRequest] plainConfig 1
      86400000).realSource.recent.sampleCount = 1 := by decide +kernel
  have flag : (rebuildQualitySummaryV3At "station_key:key-1" [epochRequest] plainConfig 1
      86400000).idleRealRouteSample = "true" := by decide +kernel
  refine ⟨by decide, samples, flag, fun agrees => ?_⟩
  have none := agrees.idle.mp flag
  rw [samples] at none
  cases none

/-- An hour later the request is in the history and the flag is right. -/
theorem idle_agrees_after_an_hour :
    IdleAgrees (rebuildQualitySummaryV3At "station_key:key-1" [epochRequest] plainConfig 1
      90000000) :=
  (idle_agrees_iff "station_key:key-1" plainConfig 90000000 1 [epochRequest] (by decide)).mpr
    (by decide +kernel)

end Idle

end RelayPool.Quality
