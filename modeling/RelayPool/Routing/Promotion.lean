import Mathlib.Data.Prod.Lex
import RelayPool.Routing.Canonical

/-! The affinity correction is a bounded promotion inside one layer.

The plan is compared with the order of the utilities before the correction
(`baseOrder`). The correction touches the targets of the affinity key in the best
layer and nothing else: each gains the bonus cap, or what it is short of 10000; the
others keep their utilities and their order; no target leaves its layer; and a
target ahead by more than the cap stays ahead (`affinity_promotion`). -/
namespace RelayPool.Routing
open Ranking Fallible

/-- The order of a plan without the correction. -/
def PlanningSnapshot.baseOrder (s : PlanningSnapshot) : List PlannedCandidate :=
  sortBy plannedOrder s.planned

/-- The least rank of what is planned, and the least tier of that rank. -/
structure BestLayer (planned : List PlannedCandidate) (rank : Nat) (tier : AvailabilityTier) :
    Prop where
  held : ∃ p ∈ planned, p.targetRank = rank ∧ p.tier = tier
  best : ∀ p ∈ planned, rank < p.targetRank ∨ rank = p.targetRank ∧ tier ≤ p.tier

/-- A target of the key in the layer. -/
def preferred (key : String) (rank : Nat) (tier : AvailabilityTier) (p : PlannedCandidate) :
    Bool :=
  decide (p.stationKeyId = key) && inLayer rank tier p

/-- The key has quality data, and some key of the layer is better by more than the
margin. -/
structure Lags (layer : List CandidateSnapshot) (affinity : CandidateSnapshot) (margin : Nat) :
    Prop where
  quality : affinity.qualityAvailable = true
  better : ∃ c ∈ layer, c.qualityAvailable = true ∧
    (affinity.reliabilityBasisPoints + margin < c.reliabilityBasisPoints ∨
      affinity.responsivenessBasisPoints + margin < c.responsivenessBasisPoints)

/-- The correction applies. -/
structure Promotes (s : PlanningSnapshot) (key : String) (rank : Nat) (tier : AvailabilityTier) :
    Prop where
  enabled : s.policy.affinityEnabled = true
  affinity : s.runtime.affinityStationKeyId = some key
  layer : BestLayer s.planned rank tier
  target : ∃ p ∈ s.planned, preferred key rank tier p = true
  keepsUp : ∀ affinity, findCandidate s.candidates key = some affinity →
    ¬ Lags (layerCandidates s.planned s.candidates rank tier) affinity
      s.profile.affinityHysteresisMarginBasisPoints

/-- What a target is without the correction. -/
def PlannedCandidate.uncorrected (p : PlannedCandidate) : PlannedCandidate :=
  { p with utility := p.baseUtility, affinityBonus := .zero, affinityApplied := false }

/-! ### The conditions of the correction -/

theorem bestLayer_iff {planned : List PlannedCandidate} {rank : Nat} {tier : AvailabilityTier} :
    BestLayer planned rank tier ↔
      bestRank planned = some rank ∧ bestTier planned rank = some tier := by
  unfold bestRank bestTier
  rw [List.min?_eq_some_iff, List.min?_eq_some_iff]
  constructor
  · rintro ⟨⟨p, mem, rfl, rfl⟩, best⟩
    refine ⟨⟨List.mem_map_of_mem mem, fun rank here => ?_⟩,
      ⟨List.mem_map_of_mem (List.mem_filter.mpr ⟨mem, by simp⟩), fun tier here => ?_⟩⟩
    · obtain ⟨q, mem, rfl⟩ := List.mem_map.mp here
      rcases best q mem with below | ⟨same, -⟩ <;> omega
    · obtain ⟨q, mem, rfl⟩ := List.mem_map.mp here
      obtain ⟨mem, level⟩ := List.mem_filter.mp mem
      have level := of_decide_eq_true level
      rcases best q mem with below | ⟨-, above⟩
      · omega
      · exact above
  · rintro ⟨⟨-, lowest⟩, ⟨member, least⟩⟩
    obtain ⟨p, here, rfl⟩ := List.mem_map.mp member
    obtain ⟨mem, level⟩ := List.mem_filter.mp here
    refine ⟨⟨p, mem, of_decide_eq_true level, rfl⟩, fun q memq => ?_⟩
    rcases Nat.lt_or_eq_of_le (lowest _ (List.mem_map_of_mem memq)) with below | same
    · exact .inl below
    · exact .inr ⟨same, least _ (List.mem_map_of_mem
        (List.mem_filter.mpr ⟨memq, decide_eq_true same.symm⟩))⟩

theorem exceedsMargin_iff {layer : List CandidateSnapshot} {affinity : CandidateSnapshot}
    {value : CandidateSnapshot → Nat} {margin : Nat} :
    exceedsMargin layer affinity value margin = true ↔
      ∃ c ∈ layer, c.qualityAvailable = true ∧ value affinity + margin < value c := by
  unfold exceedsMargin
  rw [decide_eq_true_iff]
  cases best : ((layer.filter (·.qualityAvailable)).map value).max? with
  | none =>
    rw [List.max?_eq_none_iff, List.map_eq_nil_iff, List.filter_eq_nil_iff] at best
    constructor
    · intro short
      simp only [Option.getD_none] at short
      omega
    · rintro ⟨c, mem, quality, -⟩
      exact absurd quality (best c mem)
  | some most =>
    obtain ⟨member, most_le⟩ := List.max?_eq_some_iff.mp best
    simp only [Option.getD_some]
    constructor
    · intro short
      obtain ⟨c, here, rfl⟩ := List.mem_map.mp member
      obtain ⟨mem, quality⟩ := List.mem_filter.mp here
      exact ⟨c, mem, quality, by omega⟩
    · rintro ⟨c, mem, quality, short⟩
      have le := most_le _ (List.mem_map_of_mem (List.mem_filter.mpr ⟨mem, quality⟩))
      omega

theorem lags_iff {layer : List CandidateSnapshot} {affinity : CandidateSnapshot} {margin : Nat} :
    Lags layer affinity margin ↔ (affinity.qualityAvailable &&
      (exceedsMargin layer affinity (·.reliabilityBasisPoints) margin ||
        exceedsMargin layer affinity (·.responsivenessBasisPoints) margin)) = true := by
  rw [Bool.and_eq_true, Bool.or_eq_true, exceedsMargin_iff, exceedsMargin_iff]
  constructor
  · rintro ⟨quality, c, mem, known, short | short⟩
    · exact ⟨quality, .inl ⟨c, mem, known, short⟩⟩
    · exact ⟨quality, .inr ⟨c, mem, known, short⟩⟩
  · rintro ⟨quality, ⟨c, mem, known, short⟩ | ⟨c, mem, known, short⟩⟩
    · exact ⟨quality, c, mem, known, .inl short⟩
    · exact ⟨quality, c, mem, known, .inr short⟩

instance (layer : List CandidateSnapshot) (affinity : CandidateSnapshot) (margin : Nat) :
    Decidable (Lags layer affinity margin) := decidable_of_iff _ lags_iff.symm

/-- What is planned was planned from a candidate of its key. -/
theorem findCandidate_of_planned {s : PlanningSnapshot} {p : PlannedCandidate}
    (mem : p ∈ s.planned) : ∃ affinity, findCandidate s.candidates p.stationKeyId = some affinity := by
  obtain ⟨c, variant, expanded, fields⟩ := mem_planned mem
  have here := (mem_expansion.mp expanded).1
  cases found : findCandidate s.candidates p.stationKeyId with
  | some affinity => exact ⟨affinity, rfl⟩
  | none =>
    have none := List.find?_eq_none.mp found c here
    exact absurd (decide_eq_true fields.stationKeyId.symm) none

/-- The correction of a key that has a candidate, in the best layer. -/
theorem correction_in_layer {planned : List PlannedCandidate} {candidates : List CandidateSnapshot}
    {policy : RoutingPolicyConfigV2} (profile : DispatchAlgorithmProfile) {key : String} {rank : Nat}
    {tier : AvailabilityTier} {affinity : CandidateSnapshot} (enabled : policy.affinityEnabled = true)
    (lowest : bestRank planned = some rank) (least : bestTier planned rank = some tier)
    (found : findCandidate candidates key = some affinity) :
    applyAffinityCorrection planned candidates policy profile (some key) =
      if planned.any (preferred key rank tier) = true ∧
        ¬ Lags (layerCandidates planned candidates rank tier) affinity
          profile.affinityHysteresisMarginBasisPoints
      then planned.map fun p => if preferred key rank tier p then withBonus profile p else p
      else planned := by
  have preferred_eq (p : PlannedCandidate) :
      (decide (p.stationKeyId = key) && inLayer rank tier p) = preferred key rank tier p := rfl
  simp only [applyAffinityCorrection, enabled, lowest, least, found, preferred_eq, ← lags_iff]
  cases planned.any (preferred key rank tier) with
  | false => rfl
  | true =>
    by_cases lags : Lags (layerCandidates planned candidates rank tier) affinity
        profile.affinityHysteresisMarginBasisPoints
    · simp [lags]
    · simp [lags]

/-- A key without a candidate has no targets. -/
theorem any_preferred {s : PlanningSnapshot} {key : String} {rank : Nat} {tier : AvailabilityTier}
    (any : s.planned.any (preferred key rank tier) = true) :
    ∃ affinity, findCandidate s.candidates key = some affinity := by
  obtain ⟨p, mem, here⟩ := List.any_eq_true.mp any
  have own : p.stationKeyId = key := of_decide_eq_true (Bool.and_eq_true_iff.mp here).1
  rw [← own]
  exact findCandidate_of_planned mem

/-- The correction of a plan. -/
def PlanningSnapshot.corrected (s : PlanningSnapshot) : List PlannedCandidate :=
  applyAffinityCorrection s.planned s.candidates s.policy s.profile s.runtime.affinityStationKeyId

/-- The correction where it applies. -/
theorem corrected_of_promotes {s : PlanningSnapshot} {key : String} {rank : Nat}
    {tier : AvailabilityTier} (applies : Promotes s key rank tier) : s.corrected =
      s.planned.map fun p => if preferred key rank tier p then withBonus s.profile p else p := by
  obtain ⟨lowest, least⟩ := bestLayer_iff.mp applies.layer
  have any : s.planned.any (preferred key rank tier) = true := List.any_eq_true.mpr applies.target
  obtain ⟨affinity, found⟩ := any_preferred any
  rw [PlanningSnapshot.corrected, applies.affinity,
    correction_in_layer s.profile applies.enabled lowest least found,
    if_pos ⟨any, applies.keepsUp affinity found⟩]

/-- And where it does not. -/
theorem corrected_of_not_promotes {s : PlanningSnapshot}
    (idle : ∀ key rank tier, ¬ Promotes s key rank tier) : s.corrected = s.planned := by
  unfold PlanningSnapshot.corrected
  cases enabled : s.policy.affinityEnabled with
  | false => simp [applyAffinityCorrection, enabled]
  | true =>
  cases affinity : s.runtime.affinityStationKeyId with
  | none => simp [applyAffinityCorrection]
  | some key =>
  cases lowest : bestRank s.planned with
  | none => simp [applyAffinityCorrection, lowest]
  | some rank =>
  cases least : bestTier s.planned rank with
  | none => simp [applyAffinityCorrection, lowest, least]
  | some tier =>
  cases found : findCandidate s.candidates key with
  | none => simp [applyAffinityCorrection, lowest, least, found]
  | some candidate =>
    rw [correction_in_layer s.profile enabled lowest least found, if_neg]
    rintro ⟨any, keepsUp⟩
    refine idle key rank tier ⟨enabled, affinity, bestLayer_iff.mpr ⟨lowest, least⟩,
      List.any_eq_true.mp any, fun other same => ?_⟩
    rw [found, Option.some.injEq] at same
    exact same ▸ keepsUp

/-! ### One target -/

/-- What the cap leaves of a target's distance from the top. -/
def bonus (profile : DispatchAlgorithmProfile) (p : PlannedCandidate) : Nat :=
  min profile.affinityBonusCapBasisPoints (10000 - p.baseUtility.value.get)

theorem withBonus_uncorrected (profile : DispatchAlgorithmProfile) (p : PlannedCandidate) :
    (withBonus profile p).uncorrected = p.uncorrected := by
  rcases withBonus_cases profile p with same | ⟨_, _, _, raised⟩
  · rw [same]
  · rw [raised]
    rfl

theorem withBonus_utility (profile : DispatchAlgorithmProfile) (p : PlannedCandidate) :
    (withBonus profile p).utility.value.get = p.baseUtility.value.get + bonus profile p := by
  have base := p.baseUtility.value.le
  have small : bonus profile p ≤ 10000 := (Nat.min_le_right ..).trans (Nat.sub_le ..)
  have within : p.baseUtility.value.get + bonus profile p ≤ 10000 := by
    have := Nat.min_le_right profile.affinityBonusCapBasisPoints (10000 - p.baseUtility.value.get)
    unfold bonus
    omega
  have sum : p.baseUtility.value.checkedAdd ⟨bonus profile p, small⟩ =
      some ⟨p.baseUtility.value.get + bonus profile p, within⟩ := BasisPoints.new_of_le within
  have taken : BasisPoints.new (min profile.affinityBonusCapBasisPoints
      (10000 - p.baseUtility.value.get)) = some ⟨bonus profile p, small⟩ :=
    BasisPoints.new_of_le small
  simp only [withBonus, taken, sum]

theorem plannedCandidate_uncorrected {c : CandidateSnapshot}
    {variant : Option CandidateModelVariant} {policy : RoutingPolicyConfigV2}
    {reference : Option Binary64} {p : PlannedCandidate}
    (made : plannedCandidate c variant policy reference = some p) : p.uncorrected = p := by
  unfold plannedCandidate at made
  simp only [Option.bind_eq_bind, Option.pure_def] at made
  split at made
  · cases made
  obtain ⟨tier, -, made⟩ := Option.bind_eq_some_iff.mp made
  split at made
  · cases made
  obtain ⟨score, -, made⟩ := Option.bind_eq_some_iff.mp made
  cases made
  rfl

theorem planned_uncorrected {s : PlanningSnapshot} {p : PlannedCandidate} (mem : p ∈ s.planned) :
    p.uncorrected = p := by
  obtain ⟨e, -, made⟩ := List.mem_filterMap.mp mem
  exact plannedCandidate_uncorrected made

/-- A target keeps what it is sorted by before its utility, and after. -/
structure SamePlace (p q : PlannedCandidate) : Prop where
  targetRank : q.targetRank = p.targetRank
  tier : q.tier = p.tier
  stationKeyId : q.stationKeyId = p.stationKeyId
  routingIdentity : q.routingIdentity = p.routingIdentity
  baseUtility : q.baseUtility = p.baseUtility

theorem samePlace_of_uncorrected {p q : PlannedCandidate} (same : q.uncorrected = p.uncorrected) :
    SamePlace p q :=
  ⟨congrArg (·.targetRank) same, congrArg (·.tier) same, congrArg (·.stationKeyId) same,
    congrArg (·.routingIdentity) same, congrArg (·.baseUtility) same⟩

theorem SamePlace.preferred {p q : PlannedCandidate} (same : SamePlace p q) (key : String)
    (rank : Nat) (tier : AvailabilityTier) :
    preferred key rank tier q = preferred key rank tier p := by
  simp only [Routing.preferred, inLayer, same.stationKeyId, same.targetRank, same.tier]

section Applied
variable {s : PlanningSnapshot} {key : String} {rank : Nat} {tier : AvailabilityTier}

/-- What the correction makes of a target. -/
def promote (profile : DispatchAlgorithmProfile) (key : String) (rank : Nat)
    (tier : AvailabilityTier) (p : PlannedCandidate) : PlannedCandidate :=
  if preferred key rank tier p then withBonus profile p else p

theorem promote_uncorrected (profile : DispatchAlgorithmProfile) (p : PlannedCandidate) :
    (promote profile key rank tier p).uncorrected = p.uncorrected := by
  unfold promote
  split
  · exact withBonus_uncorrected profile p
  · rfl

theorem promote_preferred (profile : DispatchAlgorithmProfile) (p : PlannedCandidate) :
    preferred key rank tier (promote profile key rank tier p) = preferred key rank tier p :=
  (samePlace_of_uncorrected (promote_uncorrected profile p)).preferred ..

theorem ordered_of_promotes (applies : Promotes s key rank tier) :
    s.ordered = sortBy plannedOrder (s.planned.map (promote s.profile key rank tier)) :=
  congrArg (sortBy plannedOrder) (corrected_of_promotes applies)

/-- The targets of the corrected order, with their bonus. -/
theorem ordered_utility (applies : Promotes s key rank tier) {p : PlannedCandidate}
    (mem : p ∈ s.ordered) : p.utility.value.get = p.baseUtility.value.get +
      if preferred key rank tier p then bonus s.profile p else 0 := by
  rw [ordered_of_promotes applies, mem_sortBy] at mem
  obtain ⟨q, memq, rfl⟩ := List.mem_map.mp mem
  have same : SamePlace q (promote s.profile key rank tier q) :=
    samePlace_of_uncorrected (promote_uncorrected s.profile q)
  have earned : bonus s.profile (promote s.profile key rank tier q) = bonus s.profile q := by
    rw [bonus, same.baseUtility, bonus]
  rw [same.preferred, earned, same.baseUtility]
  by_cases here : preferred key rank tier q = true
  · rw [if_pos here, promote, if_pos here]
    exact withBonus_utility s.profile q
  · rw [if_neg here, promote, if_neg here]
    exact congrArg (·.utility.value.get) (planned_uncorrected memq).symm

/-- The corrected order has the targets of the base order. -/
theorem ordered_uncorrected (s : PlanningSnapshot) :
    (s.ordered.map PlannedCandidate.uncorrected).Perm s.baseOrder := by
  refine (ordered_map_perm s fun _ _ _ _ => rfl).trans ?_
  have own : s.planned.map PlannedCandidate.uncorrected = s.planned :=
    (List.map_congr_left fun p mem => planned_uncorrected mem).trans (List.map_id _)
  rw [own]
  exact (sortBy_perm plannedOrder s.planned).symm

/-- The other targets keep all they have, and their order. -/
theorem ordered_others (applies : Promotes s key rank tier) :
    s.ordered.filter (!preferred key rank tier ·) =
      s.baseOrder.filter (!preferred key rank tier ·) := by
  have others : ∀ l : List PlannedCandidate,
      (l.map (promote s.profile key rank tier)).filter (!preferred key rank tier ·) =
        l.filter (!preferred key rank tier ·) := by
    intro l
    induction l with
    | nil => rfl
    | cons p l ih =>
      have same : preferred key rank tier (promote s.profile key rank tier p) =
          preferred key rank tier p := promote_preferred s.profile p
      by_cases here : preferred key rank tier p = true
      · simp [same, here, ih]
      · have untouched : promote s.profile key rank tier p = p := if_neg here
        simp [untouched, here, ih]
  rw [ordered_of_promotes applies, ← sortBy_filter, others, sortBy_filter]
  rfl

/-- The layer of a target. -/
def PlannedCandidate.layer (p : PlannedCandidate) : Nat ×ₗ AvailabilityTier :=
  toLex (p.targetRank, p.tier)

theorem sorted_layers (l : List PlannedCandidate) :
    ((sortBy plannedOrder l).map PlannedCandidate.layer).Pairwise (· ≤ ·) := by
  refine List.pairwise_map.mpr ((sortBy_pairwise plannedOrder l).imp fun {p q} le => ?_)
  have precedes := precedes_of_order le
  rw [PlannedCandidate.layer, PlannedCandidate.layer, Prod.Lex.toLex_le_toLex]
  rcases Nat.lt_or_eq_of_le precedes.rank_le with below | level
  · exact .inl below
  · exact .inr ⟨level, precedes.tier_le level.symm⟩

/-- The layers follow one another as they would without the correction. -/
theorem ordered_layers (s : PlanningSnapshot) :
    s.ordered.map PlannedCandidate.layer = s.baseOrder.map PlannedCandidate.layer := by
  refine List.Perm.eq_of_pairwise (fun _ _ _ _ => le_antisymm) (sorted_layers _) (sorted_layers _) ?_
  exact (ordered_map_perm s fun _ _ _ _ => rfl).trans
    ((sortBy_perm plannedOrder s.planned).map _).symm

/-- A target of more utility stands ahead in its layer. -/
theorem ahead_of_utility {p q : PlannedCandidate} (memp : p ∈ s.ordered) (memq : q ∈ s.ordered)
    (same : q.layer = p.layer) (more : p.utility.value.get < q.utility.value.get) :
    [q, p].Sublist s.ordered ∧ ¬ [p, q].Sublist s.ordered := by
  have different : q ≠ p := by
    rintro rfl
    exact Nat.lt_irrefl _ more
  have never : ¬ [p, q].Sublist s.ordered := by
    intro behind
    have precedes := List.pairwise_pair.mp ((ordered_pairwise s).sublist behind)
    obtain ⟨rank, tier⟩ := Prod.mk.inj same
    rcases precedes with lower | ⟨-, lower | ⟨-, higher | ⟨level, -⟩⟩⟩
    · exact absurd lower (by omega)
    · rw [tier] at lower
      exact lt_irrefl _ lower
    · omega
    · rw [level] at more
      exact Nat.lt_irrefl _ more
  exact ⟨(ahead_or memq memp different).resolve_right never, never⟩

/-- What a promotion does to a plan. -/
structure Promoted (s : PlanningSnapshot) (key : String) (rank : Nat) (tier : AvailabilityTier)
    (plan : RoutePlan) : Prop where
  utility : ∀ p ∈ plan.candidates, p.utility.value.get = p.baseUtility.value.get +
    if preferred key rank tier p then
      min s.profile.affinityBonusCapBasisPoints (10000 - p.baseUtility.value.get) else 0
  others : plan.candidates.filter (!preferred key rank tier ·) =
    s.baseOrder.filter (!preferred key rank tier ·)
  ahead : ∀ p ∈ plan.candidates, ∀ q ∈ plan.candidates, preferred key rank tier p = true →
    inLayer rank tier q = true →
    p.baseUtility.value.get + s.profile.affinityBonusCapBasisPoints < q.baseUtility.value.get →
    [q, p].Sublist plan.candidates ∧ ¬ [p, q].Sublist plan.candidates

theorem promoted_of_promotes (applies : Promotes s key rank tier) {first : PlannedCandidate} :
    Promoted s key rank tier (s.planWith first) where
  utility := fun p mem => ordered_utility applies mem
  others := ordered_others applies
  ahead := by
    intro p memp q memq here layer far
    have layers : q.layer = p.layer := by
      simp only [inLayer, preferred, Bool.and_eq_true, decide_eq_true_eq] at here layer
      rw [PlannedCandidate.layer, PlannedCandidate.layer, here.2.1, here.2.2, layer.1, layer.2]
    refine ahead_of_utility memp memq layers ?_
    have up := ordered_utility applies memp
    have kept := ordered_utility applies memq
    have capped : bonus s.profile p ≤ s.profile.affinityBonusCapBasisPoints := Nat.min_le_left ..
    rw [if_pos here] at up
    omega

end Applied

/-- The correction promotes the affinity key's targets in the best layer, within the
cap, and does nothing where it does not apply; in particular where the key lags. No
target changes its layer or anything but its utility. -/
theorem affinity_promotion (s : PlanningSnapshot) (seed : List UInt8) (round : Nat)
    (plan : RoutePlan) (ok : planSnapshot s seed round = .ok plan) :
    (∀ key rank tier, Promotes s key rank tier → Promoted s key rank tier plan) ∧
    ((∀ key rank tier, ¬ Promotes s key rank tier) → plan.candidates = s.baseOrder) ∧
    (∀ key rank tier affinity, s.runtime.affinityStationKeyId = some key →
      BestLayer s.planned rank tier → findCandidate s.candidates key = some affinity →
      Lags (layerCandidates s.planned s.candidates rank tier) affinity
        s.profile.affinityHysteresisMarginBasisPoints → plan.candidates = s.baseOrder) ∧
    plan.candidates.map PlannedCandidate.layer = s.baseOrder.map PlannedCandidate.layer ∧
    (plan.candidates.map PlannedCandidate.uncorrected).Perm s.baseOrder := by
  obtain ⟨-, -, first, -, rfl⟩ := planSnapshot_ok.mp ok
  have idle : (∀ key rank tier, ¬ Promotes s key rank tier) → s.ordered = s.baseOrder :=
    fun none => congrArg (sortBy plannedOrder) (corrected_of_not_promotes none)
  refine ⟨fun _ _ _ applies => promoted_of_promotes applies, idle, ?_, ordered_layers s, ordered_uncorrected s⟩
  intro key rank tier affinity wanted layer found lags
  refine idle fun key' rank' tier' applies => ?_
  rw [applies.affinity, Option.some.injEq] at wanted
  obtain ⟨lowest, least⟩ := bestLayer_iff.mp layer
  obtain ⟨lowest', least'⟩ := bestLayer_iff.mp applies.layer
  rw [lowest, Option.some.injEq] at lowest'
  rw [← lowest', least, Option.some.injEq] at least'
  rw [← wanted] at found
  exact applies.keepsUp affinity found (lowest' ▸ least' ▸ lags)

/-- Two keys of one layer, the second with the request's affinity. -/
def affinitySample : PlanningSnapshot :=
  let s := plainSnapshot none [plainKey "a" [],
    { plainKey "b" [] with reliabilityBasisPoints := 9800 }]
  { s with
    policy := { s.policy with affinityEnabled := true }
    runtime := { s.runtime with affinityStationKeyId := some "b" } }

theorem affinity_promotion_sample :
    affinitySample.baseOrder.map (·.stationKeyId) = ["a", "b"] ∧
      ∃ plan, planSnapshot affinitySample [] 1 = .ok plan ∧
        plan.candidates.map (·.stationKeyId) = ["b", "a"] ∧
        Promoted affinitySample "b" 0 .primary plan := by
  refine ⟨by decide +kernel, ?_⟩
  cases head : affinitySample.ordered.head? with
  | none => exact absurd head (by decide +kernel)
  | some first =>
    have ok : planSnapshot affinitySample [] 1 = .ok (affinitySample.planWith first) :=
      planSnapshot_ok.mpr ⟨by decide +kernel, by decide +kernel, first, head, rfl⟩
    have applies : Promotes affinitySample "b" 0 .primary := by
      refine ⟨rfl, rfl, bestLayer_iff.mpr (by decide +kernel), by decide +kernel, ?_⟩
      intro affinity found
      have found' : findCandidate affinitySample.candidates "b" =
          some { plainKey "b" [] with reliabilityBasisPoints := 9800 } := by decide +kernel
      rw [found', Option.some.injEq] at found
      rw [← found]
      decide +kernel
    have order : affinitySample.ordered.map (·.stationKeyId) = ["b", "a"] := by decide +kernel
    exact ⟨_, ok, order, (affinity_promotion _ _ _ _ ok).1 _ _ _ applies⟩

end RelayPool.Routing
