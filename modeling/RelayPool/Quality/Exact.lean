import Mathlib.Tactic.NormNum
import RelayPool.Quality.Scores

/-! The exact reliability of a key.

A window is the quotient of two sums of weights, a source a mixture of its windows and
the whole a mixture of the sources, all as fractions. Each rounding on the way to a
published value moves it by half a basis point, and the rounding of a share by what the
share moves of the difference: together at most three basis points (`published_near`). -/
namespace RelayPool.Quality
open Ranking Rounding

abbrev Samples := List (RoutingObservation × Nat)

section Exact
variable (config : QualityProjectionConfig)

/-- The share of the successes, or the optimistic value while there is too little to
divide by. -/
def exactWindow (minimumSamples : Nat) (l : Samples) : ℚ :=
  if l.length < minimumSamples ∨ (l.map (·.2)).sum = 0 then
    config.optimisticReliabilityBasisPoints / 10000
  else weightWhere (·.outcome = .success) l / (l.map (·.2)).sum

def exactShare (count : Nat) : ℚ := min (count / (count + 20)) (9 / 10)

def exactMix (a b share : ℚ) : ℚ := a * share + b * (1 - share)

def exactSource (samples : Window → Samples) : ℚ :=
  exactMix (exactWindow config config.recentMinimumSamples (samples .recent))
    (exactWindow config config.historicalMinimumSamples (samples .historical))
    (exactShare (samples .recent).length)

/-- No source with a weight is no reliability. -/
def exactReliability (samples : Bool → Window → Samples) : ℚ :=
  let realWeight := if config.realSourceEligible then config.realTrafficWeightBasisPoints else 0
  let monitoringWeight :=
    if config.monitoringSourceEligible then config.monitoringWeightBasisPoints else 0
  if realWeight + monitoringWeight = 0 then 0
  else exactMix (exactSource config (samples true)) (exactSource config (samples false))
    (realWeight / ((realWeight + monitoringWeight : Nat) : ℚ))

/-- The published reliabilities in basis points, each with the fraction it stands for. -/
def publishedReliabilities (summary : QualitySummary) (samples : Bool → Window → Samples) :
    List (Nat × ℚ) :=
  let recent real := exactWindow config config.recentMinimumSamples (samples real .recent)
  let historical real :=
    exactWindow config config.historicalMinimumSamples (samples real .historical)
  [(summary.reliabilityBasisPoints, exactReliability config samples),
    (summary.realReliabilityBasisPoints, exactSource config (samples true)),
    (summary.monitoringReliabilityBasisPoints, exactSource config (samples false)),
    (summary.realSource.blendedReliabilityBasisPoints, exactSource config (samples true)),
    (summary.monitoringSource.blendedReliabilityBasisPoints, exactSource config (samples false)),
    (summary.recentReliabilityBasisPoints, recent true),
    (summary.historicalReliabilityBasisPoints, historical true),
    (summary.realSource.recent.reliabilityBasisPoints, recent true),
    (summary.realSource.historical.reliabilityBasisPoints, historical true),
    (summary.monitoringSource.recent.reliabilityBasisPoints, recent false),
    (summary.monitoringSource.historical.reliabilityBasisPoints, historical false)]

/-- Number and total weight of the samples of a window, in the range of their type. -/
structure InRange (l : Samples) : Prop where
  length : l.length < 2 ^ 64
  weight : (l.map (·.2)).sum < 2 ^ 64

end Exact

/-! ### The roundings -/

/-- A published value and the fraction it stands for, up to an error in basis points. -/
def Near (error : ℚ) (published : Nat) (exact : ℚ) : Prop :=
  |(published : ℚ) - 10000 * exact| ≤ error

theorem Near.mono {error error' : ℚ} {published : Nat} {exact : ℚ}
    (near : Near error published exact) (le : error ≤ error') : Near error' published exact :=
  near.trans le

/-- A quotient times a scale, rounded at the end. -/
theorem halfUp_mul_near (a scale : Nat) {b : Nat} (positive : 0 < b) :
    |(halfUp (a * scale) b : ℚ) - scale * (a / b)| ≤ 1 / 2 := by
  have near := halfUp_near (K := ℚ) (a * scale) positive
  have exact : ((a * scale : Nat) : ℚ) / b = scale * (a / b) := by
    push_cast
    ring
  rwa [exact] at near

theorem weightWhere_le (p : RoutingObservation → Bool) (l : Samples) :
    weightWhere p l ≤ (l.map (·.2)).sum := by
  have all := @weightWhere_mono p (fun _ => true) l fun _ _ => rfl
  rwa [weightWhere.eq_def (fun _ => true), List.filter_true] at all

section Windows
variable {config : QualityProjectionConfig} {l : Samples}
  (optimistic : config.optimisticReliabilityBasisPoints ≤ 10000)
include optimistic

omit optimistic in
theorem window_near (range : InRange l) (minimumSamples : Nat) :
    Near (1 / 2) ((windowOf l).reliability minimumSamples config.optimisticReliabilityBasisPoints)
      (exactWindow config minimumSamples l) := by
  have samples : (windowOf l).sampleCount = l.length :=
    min_eq_left (Nat.le_sub_one_of_lt range.length)
  have weight : (windowOf l).effectiveWeight = (l.map (·.2)).sum :=
    min_eq_left (Nat.le_sub_one_of_lt range.weight)
  have part := weightWhere_le (·.outcome = .success) l
  have success : (windowOf l).successWeight = weightWhere (·.outcome = .success) l :=
    min_eq_left (part.trans (Nat.le_sub_one_of_lt range.weight))
  unfold V3WindowResult.reliability exactWindow Near
  rw [samples, weight, success]
  split
  · rw [mul_div_cancel₀ _ (by norm_num), sub_self, abs_zero]
    norm_num
  · rename_i counts
    have positive : 0 < (l.map (·.2)).sum := Nat.pos_of_ne_zero fun none => counts (.inr none)
    have bound : halfUp (weightWhere (·.outcome = .success) l * 10000) (l.map (·.2)).sum ≤ 10000 :=
      halfUp_le positive (by rw [Nat.mul_comm]; exact Nat.mul_le_mul_left _ part)
    rw [ratioBp, if_neg positive.ne', min_eq_left bound]
    exact halfUp_mul_near _ 10000 positive

omit optimistic in
theorem ratioBp_le (numerator denominator : Nat) : ratioBp numerator denominator ≤ 10000 := by
  unfold ratioBp
  split
  · exact Nat.zero_le _
  · exact min_le_right _ _

theorem reliability_le (r : V3WindowResult) (minimumSamples : Nat) :
    r.reliability minimumSamples config.optimisticReliabilityBasisPoints ≤ 10000 := by
  unfold V3WindowResult.reliability
  split
  · exact optimistic
  · exact ratioBp_le _ _

/-- The exact values are fractions. -/
theorem exactWindow_mem (minimumSamples : Nat) (l : Samples) :
    0 ≤ exactWindow config minimumSamples l ∧ exactWindow config minimumSamples l ≤ 1 := by
  unfold exactWindow
  split
  · refine ⟨by positivity, (div_le_one (by norm_num)).mpr ?_⟩
    exact_mod_cast optimistic
  · refine ⟨by positivity, div_le_one_of_le₀ ?_ (by positivity)⟩
    exact_mod_cast weightWhere_le _ l

end Windows

theorem recentRatioFixed_le (count : Nat) : recentRatioFixed count ≤ qualityRatioScale := by
  unfold recentRatioFixed
  split
  · exact Nat.zero_le _
  · exact (min_le_right _ _).trans (by decide)

theorem scale_eq : (qualityRatioScale : ℚ) = 1000000 := by norm_num [qualityRatioScale]

/-- A value on a scale is as near to its fraction as the rounding, in the units of the scale. -/
theorem div_near {value : Nat} {scale fraction error : ℚ} (positive : 0 < scale)
    (near : |(value : ℚ) - scale * fraction| ≤ error) :
    |(value : ℚ) / scale - fraction| ≤ error / scale := by
  have apart : (value : ℚ) / scale - fraction = ((value : ℚ) - scale * fraction) / scale := by
    rw [sub_div, mul_div_cancel_left₀ _ positive.ne']
  rw [apart, abs_div, abs_of_pos positive]
  exact div_le_div_of_nonneg_right near positive.le

theorem share_near (count : Nat) :
    |(recentRatioFixed count : ℚ) / qualityRatioScale - exactShare count| ≤ 1 / 2000000 := by
  have positive : (0 : ℚ) < qualityRatioScale := by rw [scale_eq]; norm_num
  unfold recentRatioFixed exactShare
  split
  · rename_i none
    subst none
    norm_num
  · have near := halfUp_mul_near count qualityRatioScale (Nat.succ_pos (count + 19))
    rw [Nat.mul_comm] at near
    have near : |(halfUp (qualityRatioScale * count) (count + 20) : ℚ) / qualityRatioScale -
        count / ((count + 20 : Nat) : ℚ)| ≤ 1 / 2 / qualityRatioScale := div_near positive near
    have cap : ((qualityRatioScale * 9 / 10 : Nat) : ℚ) / qualityRatioScale = 9 / 10 := by
      norm_num [qualityRatioScale]
    rw [Nat.cast_min, ← min_div_div_right positive.le, cap]
    refine (abs_min_sub_min_le_max _ _ _ _).trans (max_le ?_ (by norm_num))
    rw [scale_eq] at near ⊢
    push_cast at near
    exact near.trans (by norm_num)

theorem exactShare_mem (count : Nat) : 0 ≤ exactShare count ∧ exactShare count ≤ 1 :=
  ⟨le_min (by positivity) (by norm_num), (min_le_right _ _).trans (by norm_num)⟩

theorem exactMix_mem {a b share : ℚ} (memA : 0 ≤ a ∧ a ≤ 1) (memB : 0 ≤ b ∧ b ≤ 1)
    (memShare : 0 ≤ share ∧ share ≤ 1) : 0 ≤ exactMix a b share ∧ exactMix a b share ≤ 1 := by
  obtain ⟨shareNonneg, shareLe⟩ := memShare
  have rest : 0 ≤ 1 - share := sub_nonneg.mpr shareLe
  unfold exactMix
  constructor
  · exact add_nonneg (mul_nonneg memA.1 shareNonneg) (mul_nonneg memB.1 rest)
  · have := mul_le_mul_of_nonneg_right memA.2 shareNonneg
    have := mul_le_mul_of_nonneg_right memB.2 rest
    linarith

/-- A blend of two values near their fractions is near the mixture of these. -/
theorem blend_near {scale left right share : Nat} (positive : 0 < scale) (le : share ≤ scale)
    (leftLe : left ≤ 10000) (rightLe : right ≤ 10000) {a b fraction error errorShare : ℚ}
    (memA : 0 ≤ a ∧ a ≤ 1) (memB : 0 ≤ b ∧ b ≤ 1) (nearA : Near error left a)
    (nearB : Near error right b) (nearShare : |(share : ℚ) / scale - fraction| ≤ errorShare) :
    Near (1 / 2 + (error + 10000 * errorShare)) (min (blend scale left right share) 10000)
      (exactMix a b fraction) := by
  have field : (0 : ℚ) < scale := by exact_mod_cast positive
  have rest : ((scale - share : Nat) : ℚ) = scale - share := Nat.cast_sub le
  have bound : blend scale left right share ≤ 10000 := by
    refine halfUp_le positive ?_
    rw [min_eq_left le]
    calc left * share + right * (scale - share)
        ≤ 10000 * share + 10000 * (scale - share) :=
          Nat.add_le_add (Nat.mul_le_mul_right _ leftLe) (Nat.mul_le_mul_right _ rightLe)
      _ = 10000 * scale := by rw [← Nat.mul_add, Nat.add_sub_cancel' le]
  have rounded : |(blend scale left right share : ℚ) - ((left : ℚ) * ((share : ℚ) / scale) +
      right * (1 - (share : ℚ) / scale))| ≤ 1 / 2 := by
    have near := halfUp_near (K := ℚ) (left * share + right * (scale - share)) positive
    have exact : ((left * share + right * (scale - share) : Nat) : ℚ) / scale =
        (left : ℚ) * ((share : ℚ) / scale) + right * (1 - (share : ℚ) / scale) := by
      push_cast
      rw [rest]
      field_simp
    rw [exact] at near
    rwa [blend, min_eq_left le]
  have shareLe : (share : ℚ) / scale ≤ 1 := (div_le_one field).mpr (by exact_mod_cast le)
  have mixed := mix_near nearA nearB nearShare (by positivity) shareLe
  have spread : |10000 * a - 10000 * b| ≤ 10000 := by
    rw [abs_le]
    constructor <;> linarith [memA.1, memA.2, memB.1, memB.2]
  have shareError : |10000 * a - 10000 * b| * errorShare ≤ 10000 * errorShare :=
    mul_le_mul_of_nonneg_right spread ((abs_nonneg _).trans nearShare)
  have exact : 10000 * exactMix a b fraction =
      10000 * a * fraction + 10000 * b * (1 - fraction) := by
    unfold exactMix
    ring
  unfold Near
  rw [min_eq_left bound, exact]
  refine (abs_sub_le _ _ _).trans (add_le_add rounded (mixed.trans ?_))
  exact add_le_add_right shareError _

/-! ### Published values -/

section Published
variable {config : QualityProjectionConfig}
  (optimistic : config.optimisticReliabilityBasisPoints ≤ 10000)
include optimistic

theorem exactSource_mem (samples : Window → Samples) :
    0 ≤ exactSource config samples ∧ exactSource config samples ≤ 1 :=
  exactMix_mem (exactWindow_mem optimistic _ _) (exactWindow_mem optimistic _ _)
    (exactShare_mem _)

theorem source_near {source : V3SourceResult} {samples : Window → Samples}
    (sums : ∀ window, source.window window = windowOf (samples window))
    (range : ∀ window, InRange (samples window)) :
    Near (1 + 1 / 200) (sourceReliability source config).blended (exactSource config samples) := by
  have recent : source.recent = windowOf (samples .recent) := sums .recent
  have historical : source.historical = windowOf (samples .historical) := sums .historical
  have count : source.recent.sampleCount = (samples .recent).length := by
    rw [recent]
    exact min_eq_left (Nat.le_sub_one_of_lt (range .recent).length)
  have near := blend_near (by decide : 0 < qualityRatioScale)
    (recentRatioFixed_le (samples .recent).length)
    (reliability_le optimistic source.recent config.recentMinimumSamples)
    (reliability_le optimistic source.historical config.historicalMinimumSamples)
    (exactWindow_mem optimistic config.recentMinimumSamples (samples .recent))
    (exactWindow_mem optimistic config.historicalMinimumSamples (samples .historical))
    (by rw [recent]; exact window_near (range .recent) _)
    (by rw [historical]; exact window_near (range .historical) _)
    (share_near (samples .recent).length)
  rw [← count] at near
  rw [exactSource, ← count]
  exact near.mono (by norm_num)

theorem mixReliability_near {real monitoring : ReliabilityResult}
    {samples : Bool → Window → Samples} {error : ℚ} (nonneg : 0 ≤ error)
    (realLe : real.blended ≤ 10000) (monitoringLe : monitoring.blended ≤ 10000)
    (realNear : Near error real.blended (exactSource config (samples true)))
    (monitoringNear : Near error monitoring.blended (exactSource config (samples false))) :
    Near (error + 1) (mixReliability real monitoring config).reliability
      (exactReliability config samples) := by
  unfold mixReliability exactReliability
  dsimp only
  generalize (if config.realSourceEligible then config.realTrafficWeightBasisPoints else 0) =
    realWeight
  generalize (if config.monitoringSourceEligible then config.monitoringWeightBasisPoints else 0) =
    monitoringWeight
  split
  · unfold Near
    norm_num
    linarith
  · rename_i weighed
    have positive : 0 < realWeight + monitoringWeight := Nat.pos_of_ne_zero weighed
    have effectiveLe : effectiveReal realWeight (realWeight + monitoringWeight) ≤ 10000 :=
      halfUp_le positive (by
        rw [Nat.mul_comm]
        exact Nat.mul_le_mul_left _ (Nat.le_add_right _ _))
    have share : |(effectiveReal realWeight (realWeight + monitoringWeight) : ℚ) /
        (basisPointsScale : Nat) - realWeight / ((realWeight + monitoringWeight : Nat) : ℚ)| ≤
          1 / 2 / (basisPointsScale : Nat) :=
      div_near (by norm_num [basisPointsScale]) (halfUp_mul_near realWeight basisPointsScale positive)
    have near := blend_near (by decide : 0 < basisPointsScale) effectiveLe realLe monitoringLe
      (exactSource_mem optimistic (samples true)) (exactSource_mem optimistic (samples false))
      realNear monitoringNear share
    refine near.mono ?_
    norm_num [basisPointsScale]
    linarith

/-- Every published reliability is within three basis points of the exact one. -/
theorem published_near (scope : String) (checkpointSequence : Nat) (evaluationAtMs : Int64)
    (observations : List RoutingObservation)
    (range : ∀ real window,
      InRange (windowSamples scope config evaluationAtMs observations real window)) :
    ∀ value ∈ publishedReliabilities config
        (rebuildQualitySummaryV3At scope observations config checkpointSequence evaluationAtMs)
        (windowSamples scope config evaluationAtMs observations),
      Near 3 value.1 value.2 := by
  let r := evaluatedResults scope config evaluationAtMs observations
  have sums := evaluatedResults_window scope config evaluationAtMs observations
  have real := source_near optimistic (sums true) (range true)
  have monitoring := source_near optimistic (sums false) (range false)
  have overall := mixReliability_near optimistic (by norm_num) (min_le_right _ _)
    (min_le_right _ _) real monitoring
  have window (isReal : Bool) (window : Window) (minimumSamples : Nat) :
      Near 3 (((r.side isReal).window window).reliability minimumSamples
          config.optimisticReliabilityBasisPoints)
        (exactWindow config minimumSamples
          (windowSamples scope config evaluationAtMs observations isReal window)) := by
    rw [sums]
    exact (window_near (range isReal window) minimumSamples).mono (by norm_num)
  have source {published : Nat} {exact : ℚ} (near : Near (1 + 1 / 200) published exact) :
      Near 3 published exact := near.mono (by norm_num)
  simp only [publishedReliabilities, List.forall_mem_cons]
  exact ⟨overall.mono (by norm_num), source real, source monitoring, source real,
    source monitoring, window true .recent _, window true .historical _, window true .recent _,
    window true .historical _, window false .recent _, window false .historical _, nofun⟩

end Published

/-- Monotone in outcomes and latencies, and exact up to three basis points in range. -/
theorem scores_hold (scope : String) (config : QualityProjectionConfig) (checkpointSequence : Nat)
    (evaluationAtMs : Int64) (observations : List RoutingObservation) :
    (∀ target : RoutingObservation, target.outcome.isFailure = true →
      ReliabilityAtMost
        (rebuildQualitySummaryV3At scope observations config checkpointSequence evaluationAtMs)
        (rebuildQualitySummaryV3At scope (observations.map (succeed target)) config
          checkpointSequence evaluationAtMs)) ∧
    (∀ (target : RoutingObservation) (latency latency' : Nat),
      target.latencyMs = some latency → latency' ≤ latency →
        (rebuildQualitySummaryV3At scope observations config checkpointSequence
            evaluationAtMs).responsivenessBasisPoints ≤
          (rebuildQualitySummaryV3At scope (observations.map (respond target latency')) config
            checkpointSequence evaluationAtMs).responsivenessBasisPoints) ∧
    (config.optimisticReliabilityBasisPoints ≤ 10000 →
      (∀ real window,
        InRange (windowSamples scope config evaluationAtMs observations real window)) →
      ∀ value ∈ publishedReliabilities config
          (rebuildQualitySummaryV3At scope observations config checkpointSequence evaluationAtMs)
          (windowSamples scope config evaluationAtMs observations),
        Near 3 value.1 value.2) :=
  ⟨fun _ failure => success_never_lowers scope config checkpointSequence evaluationAtMs
      observations failure,
    fun _ _ _ had le => latency_never_lowers scope config checkpointSequence evaluationAtMs
      observations had le,
    fun optimistic range => published_near optimistic scope checkpointSequence evaluationAtMs
      observations range⟩

/-- Windows that two samples, and one of an earlier day, are enough for. -/
def sampledConfig : QualityProjectionConfig :=
  { plainConfig with recentMinimumSamples := 2, historicalMinimumSamples := 1 }

/-- A request that fails an hour before the evaluation. -/
def failedRequest : RoutingObservation :=
  { epochRequest with
    id := "observation-3", correlationId := "request-3", eventAtMs := 169200000
    outcome := .endpointFailure }

/-- A request of two days ago, one of an hour ago and the failed one. -/
def sampledRequests : List RoutingObservation :=
  [epochRequest,
    { epochRequest with
      id := "observation-2", correlationId := "request-2", eventAtMs := 169200000 },
    failedRequest]

/-- The windows of the requests are measured, their values are near the exact ones, and none
of them would fall if the failed request had succeeded. -/
theorem scores_hold_sampled :
    let summary := rebuildQualitySummaryV3At "station_key:key-1" sampledRequests sampledConfig 1
      172800000
    (summary.recentReliabilityBasisPoints, summary.historicalReliabilityBasisPoints) =
        (5000, 10000) ∧
      ReliabilityAtMost summary (rebuildQualitySummaryV3At "station_key:key-1"
        (sampledRequests.map (succeed failedRequest)) sampledConfig 1 172800000) ∧
      ∀ value ∈ publishedReliabilities sampledConfig summary
          (windowSamples "station_key:key-1" sampledConfig 172800000 sampledRequests),
        Near 3 value.1 value.2 := by
  have holds := scores_hold "station_key:key-1" sampledConfig 1 172800000 sampledRequests
  refine ⟨by decide +kernel, holds.1 failedRequest (by decide), holds.2.2 (by decide)
    fun real window => ?_⟩
  cases real <;> cases window <;> exact ⟨by decide +kernel, by decide +kernel⟩

/-! ### Out of range -/

/-- Requests with one attempt each count one by one. -/
theorem selectedRows_of_single {scope : String} {config : QualityProjectionConfig}
    {observations : List RoutingObservation}
    (eligible : ∀ o ∈ observations, (inCurrentScope scope config o &&
      decide (o.source ≠ .administrative) && decide (o.trafficEquivalence ≠ .anonymous)) = true ∧
        o.correlationId ≠ "")
    (single : ∀ o ∈ observations, o.clusterFinalized = true ∧ 0 < o.clusterExpectedAttemptCount)
    (distinct : (observations.map clusterKey).Nodup) :
    (selectedRows scope config observations).Perm observations := by
  have all : (considered scope config observations).filter (·.correlationId ≠ "") =
      observations := by
    rw [considered, List.filter_eq_self.mpr fun o mem => (eligible o mem).1]
    exact List.filter_eq_self.mpr fun o mem => by simpa using (eligible o mem).2
  have own (o : RoutingObservation) (mem : o ∈ observations) :
      canonical (observations.filter (clusterKey · = clusterKey o)) = some o := by
    have only : observations.filter (clusterKey · = clusterKey o) = [o] := by
      have same : observations.filter (clusterKey · = clusterKey o) =
          observations.filter (· = o) := List.filter_congr fun o' mem' =>
        decide_eq_decide.mpr ⟨fun key => List.inj_on_of_nodup_map distinct mem' mem key,
          congrArg clusterKey⟩
      rw [same, List.filter_eq, List.count_eq_one_of_mem (List.Nodup.of_map _ distinct) mem]
      rfl
    rw [only]
    simp [canonical, sortBy, finalized, (single o mem).1, (single o mem).2, maxBy]
  have perm : (selectedRows scope config observations).Perm
      ((observations.map clusterKey).filterMap fun key =>
        canonical (observations.filter (clusterKey · = key))) := by
    rw [selectedRows, clusters, all, List.filterMap_map, List.dedup_eq_self.mpr distinct]
    exact (sortBy_perm _ _).filterMap _
  refine perm.trans (List.Perm.of_eq ?_)
  rw [List.filterMap_map]
  exact (List.filterMap_congr own).trans List.filterMap_some

/-- A request of the epoch by the name of a tag and a number. -/
def numbered (tag : Char) (outcome : ObservationOutcome) (i : Nat) : RoutingObservation :=
  { epochRequest with correlationId := .ofList (tag :: List.replicate i 'a'), outcome }

/-- As many successes as failures. -/
def crowd (n : Nat) : List RoutingObservation :=
  (List.range n).map (numbered 's' .success) ++ (List.range n).map (numbered 'f' .timeout)

theorem numbered_of_mem {n : Nat} {o : RoutingObservation} (mem : o ∈ crowd n) :
    ∃ tag outcome i, (outcome = .success ∨ outcome = .timeout) ∧ o = numbered tag outcome i := by
  rcases List.mem_append.mp mem with success | failure
  · obtain ⟨i, -, rfl⟩ := List.mem_map.mp success
    exact ⟨_, _, i, .inl rfl, rfl⟩
  · obtain ⟨i, -, rfl⟩ := List.mem_map.mp failure
    exact ⟨_, _, i, .inr rfl, rfl⟩

theorem crowd_distinct (n : Nat) : ((crowd n).map clusterKey).Nodup := by
  have key (tag : Char) (outcome : ObservationOutcome) (i : Nat) :
      (clusterKey (numbered tag outcome i)).correlationId.toList = tag :: List.replicate i 'a' :=
    String.toList_ofList
  have apart {tag tag' : Char} {outcome outcome' : ObservationOutcome} {i j : Nat}
      (same : clusterKey (numbered tag outcome i) = clusterKey (numbered tag' outcome' j)) :
      tag = tag' ∧ i = j := by
    have names := congrArg (·.correlationId.toList) same
    simp only [key, List.cons.injEq] at names
    exact ⟨names.1, by simpa using congrArg List.length names.2⟩
  rw [crowd, List.map_append, List.map_map, List.map_map, List.nodup_append]
  refine ⟨List.nodup_range.map fun i j same => (apart same).2,
    List.nodup_range.map fun i j same => (apart same).2, ?_⟩
  intro k success k' failure same
  obtain ⟨i, -, rfl⟩ := List.mem_map.mp success
  obtain ⟨j, -, rfl⟩ := List.mem_map.mp failure
  exact absurd (apart same).1 (by decide)

theorem crowd_samples (n : Nat) :
    (windowSamples "station_key:key-1" plainConfig 0 (crowd n) true .recent).Perm
      ((crowd n).map fun o => (o, qualityWeightScale)) := by
  have selected : (selectedRows "station_key:key-1" plainConfig (crowd n)).Perm (crowd n) := by
    refine selectedRows_of_single (fun o mem => ?_) (fun o mem => ?_) (crowd_distinct n)
    · obtain ⟨tag, outcome, i, -, rfl⟩ := numbered_of_mem mem
      have eligible : (inCurrentScope "station_key:key-1" plainConfig epochRequest &&
        decide (epochRequest.source ≠ .administrative) &&
        decide (epochRequest.trafficEquivalence ≠ .anonymous)) = true := by decide +kernel
      refine ⟨eligible, fun none => ?_⟩
      have empty := congrArg String.toList none
      simp [numbered] at empty
    · obtain ⟨tag, outcome, i, -, rfl⟩ := numbered_of_mem mem
      exact ⟨rfl, Nat.one_pos⟩
  refine (selected.filterMap _).trans (List.Perm.of_eq ?_)
  rw [← List.filterMap_eq_map]
  refine List.filterMap_congr fun o mem => ?_
  obtain ⟨tag, outcome, i, quality, rfl⟩ := numbered_of_mem mem
  have here : place (evaluated 0) (numbered tag outcome i) = some (.recent, qualityWeightScale) := by
    have counted (outcome : ObservationOutcome) (is : outcome = .success ∨ outcome = .timeout) :
        place (evaluated 0) { epochRequest with outcome } = some (.recent, qualityWeightScale) := by
      rcases is with rfl | rfl <;> decide +kernel
    exact counted outcome quality
  rw [here]
  rfl

theorem crowd_length (n : Nat) :
    (windowSamples "station_key:key-1" plainConfig 0 (crowd n) true .recent).length = 2 * n := by
  rw [(crowd_samples n).length_eq]
  simp [crowd, two_mul]

theorem crowd_weights (n : Nat) :
    ((windowSamples "station_key:key-1" plainConfig 0 (crowd n) true .recent).map (·.2)).sum =
      2 * n * qualityWeightScale := by
  rw [((crowd_samples n).map _).sum_eq, List.map_map]
  simp [Function.comp_def, crowd, two_mul]

theorem crowd_successes (n : Nat) : weightWhere (·.outcome = .success)
      (windowSamples "station_key:key-1" plainConfig 0 (crowd n) true .recent) =
    n * qualityWeightScale := by
  rw [weightWhere, (((crowd_samples n).filter _).map _).sum_eq]
  simp [crowd, List.filter_append, List.filter_map, Function.comp_def, numbered]

theorem recent_published (scope : String) (config : QualityProjectionConfig)
    (checkpointSequence : Nat) (evaluationAtMs : Int64) (observations : List RoutingObservation) :
    ((windowOf (windowSamples scope config evaluationAtMs observations true .recent)).reliability
        config.recentMinimumSamples config.optimisticReliabilityBasisPoints,
      exactWindow config config.recentMinimumSamples
        (windowSamples scope config evaluationAtMs observations true .recent)) ∈
      publishedReliabilities config
        (rebuildQualitySummaryV3At scope observations config checkpointSequence evaluationAtMs)
        (windowSamples scope config evaluationAtMs observations) := by
  rw [← evaluatedResults_window]
  exact .tail _ (.tail _ (.tail _ (.tail _ (.tail _ (.head _)))))

/-- Forty billion million samples overflow the sums; an optimistic value of more than a
whole is cut off by the blend. -/
theorem out_of_range_apart :
    (∃ value ∈ publishedReliabilities plainConfig
        (rebuildQualitySummaryV3At "station_key:key-1" (crowd (2 * 10 ^ 13)) plainConfig 1 0)
        (windowSamples "station_key:key-1" plainConfig 0 (crowd (2 * 10 ^ 13))),
      ¬ Near 3 value.1 value.2) ∧
    ∃ value ∈ publishedReliabilities
        { plainConfig with optimisticReliabilityBasisPoints := 65535 }
        (rebuildQualitySummaryV3At "station_key:key-1" []
          { plainConfig with optimisticReliabilityBasisPoints := 65535 } 1 0)
        (windowSamples "station_key:key-1"
          { plainConfig with optimisticReliabilityBasisPoints := 65535 } 0 []),
      ¬ Near 3 value.1 value.2 := by
  constructor
  · let l := windowSamples "station_key:key-1" plainConfig 0 (crowd (2 * 10 ^ 13)) true .recent
    have weights : (l.map (·.2)).sum = 2 * (2 * 10 ^ 13) * qualityWeightScale := crowd_weights _
    have successes : weightWhere (·.outcome = .success) l = 2 * 10 ^ 13 * qualityWeightScale :=
      crowd_successes _
    have length : l.length = 2 * (2 * 10 ^ 13) := crowd_length _
    have exact : exactWindow plainConfig plainConfig.recentMinimumSamples l = 1 / 2 := by
      rw [exactWindow, weights, successes, length, if_neg (by decide)]
      norm_num [qualityWeightScale]
    have published : (windowOf l).reliability plainConfig.recentMinimumSamples
        plainConfig.optimisticReliabilityBasisPoints = 10000 := by
      rw [V3WindowResult.reliability, windowOf]
      dsimp only
      rw [weights, successes, length, if_neg (by decide)]
      decide
    refine ⟨_, recent_published _ _ _ _ _, ?_⟩
    rw [exact, published, Near]
    norm_num
  · refine ⟨_, .head _, ?_⟩
    have published : (rebuildQualitySummaryV3At "station_key:key-1" []
        { plainConfig with optimisticReliabilityBasisPoints := 65535 } 1 0).reliabilityBasisPoints =
          10000 := by decide +kernel
    have samples (real : Bool) (window : Window) : windowSamples "station_key:key-1"
        { plainConfig with optimisticReliabilityBasisPoints := 65535 } 0 [] real window = [] := rfl
    rw [published, Near]
    simp only [exactReliability, exactSource, exactWindow, samples]
    norm_num [plainConfig, exactMix, exactShare]

end RelayPool.Quality
