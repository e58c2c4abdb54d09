import RelayPool.Routing.Planner

/-! The plan as a function of the set of candidates.

Permuting the candidates permutes what is planned from them, the correction reads
planned targets only through minima, maxima and searches for the one candidate of
a key, and the final order never holds two targets equal. Hence the plan does not
depend on the order the candidates came in (`planSnapshot_of_perm`), and it is
what `plan_canonical` says. -/
namespace RelayPool.Routing
open Ranking Fallible

/-! ### The order -/

instance : Std.TransCmp plannedOrder := by
  have descending : Std.TransCmp fun left right : PlannedCandidate =>
      compareOn (·.utility.value.get) right left :=
    @Std.TransCmp.opposite _ (compareOn fun p : PlannedCandidate => p.utility.value.get) _
  unfold plannedOrder
  infer_instance

theorem plannedOrder_eq {p q : PlannedCandidate} (h : plannedOrder p q = .eq) :
    p.routingIdentity = q.routingIdentity := by
  simp only [plannedOrder, compareLex_eq_eq, compareOn] at h
  exact Std.LawfulEqOrd.eq_of_compare h.2.2.2.2

/-- The order of a plan: rank, then tier, then utility from the highest, then key
and identity. -/
def Precedes (p q : PlannedCandidate) : Prop :=
  p.targetRank < q.targetRank ∨ p.targetRank = q.targetRank ∧
  (p.tier < q.tier ∨ p.tier = q.tier ∧
  (q.utility.value.get < p.utility.value.get ∨ p.utility = q.utility ∧
  (p.stationKeyId < q.stationKeyId ∨ p.stationKeyId = q.stationKeyId ∧
  p.routingIdentity ≤ q.routingIdentity)))

theorem UtilityScore.ext_get {a b : UtilityScore} (h : a.value.get = b.value.get) : a = b := by
  obtain ⟨⟨a, _⟩⟩ := a
  obtain ⟨⟨b, _⟩⟩ := b
  cases (show a = b from h)
  rfl

theorem string_le_of_compare {a b : String} (h : (compare a b).isLE) : a ≤ b := by
  cases hc : compare a b with
  | lt => exact le_of_lt (compareOfLessAndEq_eq_lt.mp hc)
  | eq => exact le_of_eq (Std.LawfulEqOrd.eq_of_compare hc)
  | gt => rw [hc] at h; cases h

theorem precedes_of_order {p q : PlannedCandidate} (h : (plannedOrder p q).isLE) :
    Precedes p q := by
  simp only [plannedOrder, compareLex, compareOn, Ordering.isLE_then_iff_or] at h
  rcases h with h | ⟨rank, h⟩
  · exact .inl (Nat.compare_eq_lt.mp h)
  refine .inr ⟨Nat.compare_eq_eq.mp rank, ?_⟩
  rcases h with h | ⟨tier, h⟩
  · exact .inl (compare_lt_iff_lt.mp h)
  refine .inr ⟨compare_eq_iff_eq.mp tier, ?_⟩
  rcases h with h | ⟨utility, h⟩
  · exact .inl (Nat.compare_eq_lt.mp h)
  refine .inr ⟨(UtilityScore.ext_get (Nat.compare_eq_eq.mp utility)).symm, ?_⟩
  rcases h with h | ⟨key, h⟩
  · exact .inl (compareOfLessAndEq_eq_lt.mp h)
  exact .inr ⟨Std.LawfulEqOrd.eq_of_compare key, string_le_of_compare h⟩

/-! ### What is planned -/

/-- What makes a candidate eligible, whatever variant it is planned with. -/
def CandidateSnapshot.eligible (policy : RoutingPolicyConfigV2) (c : CandidateSnapshot) : Bool :=
  c.hardEligible && (plannedTier c policy).isSome && decide (c.capabilityBasisPoints ≠ 0)

/-- What the planner writes of a candidate into each of its targets. -/
structure PlannedFrom (c : CandidateSnapshot) (variant : Option CandidateModelVariant)
    (policy : RoutingPolicyConfigV2) (reference : Option Binary64) (p : PlannedCandidate) :
    Prop where
  stationKeyId : p.stationKeyId = c.stationKeyId
  routingIdentity : p.routingIdentity = c.routingIdentity variant
  targetRank : p.targetRank = (variant.map (·.targetRank)).getD 0
  variant : p.variant = variant
  tier : plannedTier c policy = some p.tier
  base : (weightedScoreComponents c policy none reference).map (·.total) =
    some p.baseUtility.value
  eligible : c.eligible policy

theorem plannedFrom_of {c : CandidateSnapshot} {variant : Option CandidateModelVariant}
    {policy : RoutingPolicyConfigV2} {reference : Option Binary64} {p : PlannedCandidate}
    (h : plannedCandidate c variant policy reference = some p) :
    PlannedFrom c variant policy reference p := by
  unfold plannedCandidate at h
  by_cases hard : c.hardEligible
  swap
  · simp [hard] at h
  cases tier : plannedTier c policy with
  | none => simp [hard, tier] at h
  | some t =>
    by_cases capable : c.capabilityBasisPoints = 0
    · simp [hard, tier, capable] at h
    cases score : weightedScoreComponents c policy none reference with
    | none => simp [hard, tier, capable, score] at h
    | some components =>
      simp only [hard, tier, capable, score, Bool.not_true, Bool.false_eq_true, if_false,
        Option.bind_eq_bind, Option.bind_some, Option.pure_def, Option.some.injEq] at h
      cases h
      exact ⟨rfl, rfl, rfl, rfl, tier, by rw [score]; rfl, by
        simp [CandidateSnapshot.eligible, hard, tier, capable]⟩

/-- An eligible candidate of a valid snapshot is planned with each of its variants. -/
theorem plannedCandidate_isSome {c : CandidateSnapshot} {policy : RoutingPolicyConfigV2}
    (validPolicy : policy.validate = .ok ()) (valid : c.invalid = false)
    (eligible : c.eligible policy) (variant : Option CandidateModelVariant)
    (reference : Option Binary64) :
    ∃ p, plannedCandidate c variant policy reference = some p := by
  simp only [CandidateSnapshot.eligible, Bool.and_eq_true, decide_eq_true_eq] at eligible
  obtain ⟨⟨hard, tier⟩, capable⟩ := eligible
  obtain ⟨t, tier⟩ := Option.isSome_iff_exists.mp tier
  obtain ⟨components, score⟩ := weightedScoreComponents_isSome validPolicy valid none reference
  simp [plannedCandidate, hard, tier, capable, score]

theorem mem_planned {s : PlanningSnapshot} {p : PlannedCandidate} (hp : p ∈ s.planned) :
    ∃ c variant, (c, variant) ∈ s.expansion ∧
      PlannedFrom c variant s.policy (multiplierMedian s.rateMultipliers) p := by
  obtain ⟨e, he, h⟩ := List.mem_filterMap.mp hp
  exact ⟨e.1, e.2, he, plannedFrom_of h⟩

theorem mem_expansion {s : PlanningSnapshot} {c : CandidateSnapshot}
    {variant : Option CandidateModelVariant} :
    (c, variant) ∈ s.expansion ↔ c ∈ s.candidates ∧ variant ∈ c.variants := by
  simp only [PlanningSnapshot.expansion, List.mem_flatMap, List.mem_map, Prod.mk.injEq]
  constructor
  · rintro ⟨c', hc, v, hv, rfl, rfl⟩
    exact ⟨hc, hv⟩
  · exact fun ⟨hc, hv⟩ => ⟨c, hc, variant, hv, rfl, rfl⟩

theorem planned_identities {s : PlanningSnapshot} (wf : s.WellFormed) :
    (s.planned.map (·.routingIdentity)).Nodup :=
  wf.identities.sublist
    (map_filterMap_sublist (fun _ _ h => (plannedFrom_of h).routingIdentity) _)

/-! ### The correction -/

theorem withBonus_cases (profile : DispatchAlgorithmProfile) (p : PlannedCandidate) :
    withBonus profile p = p ∨ ∃ bonus applied utility, withBonus profile p =
      { p with affinityBonus := bonus, affinityApplied := applied, utility := utility } := by
  simp only [withBonus]
  cases BasisPoints.new (min profile.affinityBonusCapBasisPoints
      (10000 - p.baseUtility.value.get)) with
  | none => exact .inl rfl
  | some bonus =>
    dsimp only
    cases p.baseUtility.value.checkedAdd bonus with
    | none => exact .inl rfl
    | some effective => exact .inr ⟨_, _, _, rfl⟩

/-- The correction raises the utility of some targets and changes nothing else. -/
theorem affinityCorrection_map {β : Type} {f : PlannedCandidate → β}
    (keeps : ∀ p bonus applied utility, f { p with
      affinityBonus := bonus, affinityApplied := applied, utility := utility } = f p)
    (planned : List PlannedCandidate) (candidates : List CandidateSnapshot)
    (policy : RoutingPolicyConfigV2) (profile : DispatchAlgorithmProfile) (key : Option String) :
    (applyAffinityCorrection planned candidates policy profile key).map f = planned.map f := by
  have raised : ∀ preferred : PlannedCandidate → Bool,
      (planned.map fun p => if preferred p then withBonus profile p else p).map f =
        planned.map f := by
    intro preferred
    rw [List.map_map]
    refine List.map_congr_left fun p _ => ?_
    by_cases hp : preferred p
    · simp only [Function.comp, hp, if_true]
      rcases withBonus_cases profile p with same | ⟨bonus, applied, utility, raised⟩
      · rw [same]
      · rw [raised]
        exact keeps _ _ _ _
    · simp [hp]
  unfold applyAffinityCorrection
  split
  · rfl
  · cases key with
    | none => rfl
    | some key =>
      cases bestRank planned with
      | none => rfl
      | some rank =>
        dsimp only
        cases bestTier planned rank with
        | none => rfl
        | some tier =>
          cases findCandidate candidates key with
          | none => rfl
          | some affinity =>
            dsimp only
            split
            · rfl
            · split
              · rfl
              · exact raised _

theorem bestTier_of_perm {l₁ l₂ : List PlannedCandidate} (perm : l₁.Perm l₂) (rank : Nat) :
    bestTier l₁ rank = bestTier l₂ rank := min_eq_of_perm ((perm.filter _).map _)

theorem findCandidate_of_perm {l₁ l₂ : List CandidateSnapshot} (perm : l₁.Perm l₂)
    (nodup : (l₁.map (·.stationKeyId)).Nodup) (key : String) :
    findCandidate l₁ key = findCandidate l₂ key := by
  refine find_eq_of_perm perm fun a ha b hb hka hkb => ?_
  refine List.inj_on_of_nodup_map nodup ha hb ?_
  rw [of_decide_eq_true hka, of_decide_eq_true hkb]

theorem exceedsMargin_of_perm {l₁ l₂ : List CandidateSnapshot} (perm : l₁.Perm l₂)
    (affinity : CandidateSnapshot) (value : CandidateSnapshot → Nat) (margin : Nat) :
    exceedsMargin l₁ affinity value margin = exceedsMargin l₂ affinity value margin := by
  simp only [exceedsMargin, max_eq_of_perm ((perm.filter _).map value)]

theorem affinityCorrection_of_perm {planned₁ planned₂ : List PlannedCandidate}
    {candidates₁ candidates₂ : List CandidateSnapshot} (planned : planned₁.Perm planned₂)
    (candidates : candidates₁.Perm candidates₂)
    (nodup : (candidates₁.map (·.stationKeyId)).Nodup) (policy : RoutingPolicyConfigV2)
    (profile : DispatchAlgorithmProfile) (key : Option String) :
    (applyAffinityCorrection planned₁ candidates₁ policy profile key).Perm
      (applyAffinityCorrection planned₂ candidates₂ policy profile key) := by
  have find := findCandidate_of_perm candidates nodup
  have layer : ∀ rank tier, (layerCandidates planned₁ candidates₁ rank tier).Perm
      (layerCandidates planned₂ candidates₂ rank tier) := by
    intro rank tier
    have same : (fun p : PlannedCandidate => findCandidate candidates₁ p.stationKeyId) =
        fun p => findCandidate candidates₂ p.stationKeyId := funext fun p => find _
    unfold layerCandidates
    rw [same]
    exact (planned.filter _).filterMap _
  have rank : bestRank planned₁ = bestRank planned₂ := min_eq_of_perm (planned.map _)
  unfold applyAffinityCorrection
  rw [rank]
  split
  · exact planned
  · cases key with
    | none => exact planned
    | some key =>
      cases bestRank planned₂ with
      | none => exact planned
      | some rank =>
        dsimp only
        rw [bestTier_of_perm planned rank, find key]
        cases bestTier planned₂ rank with
        | none => exact planned
        | some tier =>
          cases findCandidate candidates₂ key with
          | none => exact planned
          | some affinity =>
            dsimp only
            rw [planned.any_eq]
            split
            · exact planned
            · rw [exceedsMargin_of_perm (layer rank tier), exceedsMargin_of_perm (layer rank tier)]
              split
              · exact planned
              · exact planned.map _

/-! ### The plan -/

/-- The targets of a plan are the planned ones, whatever the correction did to
their utility. -/
theorem ordered_map_perm {β : Type} (s : PlanningSnapshot) {f : PlannedCandidate → β}
    (keeps : ∀ p bonus applied utility, f { p with
      affinityBonus := bonus, affinityApplied := applied, utility := utility } = f p) :
    (s.ordered.map f).Perm (s.planned.map f) := by
  have perm := (sortBy_perm plannedOrder (applyAffinityCorrection s.planned s.candidates s.policy
    s.profile s.runtime.affinityStationKeyId)).map f
  rwa [affinityCorrection_map keeps] at perm

theorem ordered_pairwise (s : PlanningSnapshot) : s.ordered.Pairwise Precedes :=
  (sortBy_pairwise plannedOrder _).imp precedes_of_order

theorem ordered_eq_nil {s : PlanningSnapshot} : s.ordered = [] ↔ s.planned = [] := by
  have length := (ordered_map_perm s (f := fun _ => ()) fun _ _ _ _ => rfl).length_eq
  rw [List.length_map, List.length_map] at length
  rw [← List.length_eq_zero_iff, length, List.length_eq_zero_iff]

theorem Precedes.refl (p : PlannedCandidate) : Precedes p p :=
  .inr ⟨rfl, .inr ⟨rfl, .inr ⟨rfl, .inr ⟨rfl, le_refl _⟩⟩⟩⟩

theorem Precedes.rank_le {p q : PlannedCandidate} (h : Precedes p q) :
    p.targetRank ≤ q.targetRank := by
  rcases h with h | ⟨h, -⟩ <;> omega

theorem Precedes.tier_le {p q : PlannedCandidate} (h : Precedes p q)
    (rank : q.targetRank = p.targetRank) : p.tier ≤ q.tier := by
  rcases h with h | ⟨-, h | ⟨h, -⟩⟩
  · omega
  · exact le_of_lt h
  · exact le_of_eq h

/-- The head of the order is what the scans for the best rank, the best tier and
the first target of both find. -/
theorem scans_find_head {s : PlanningSnapshot} {p : PlannedCandidate} {l : List PlannedCandidate}
    (h : s.ordered = p :: l) :
    bestTier (p :: l) p.targetRank = some p.tier ∧
      (p :: l).find? (inLayer p.targetRank p.tier) = some p := by
  have sorted := ordered_pairwise s
  rw [h] at sorted
  constructor
  · rw [bestTier, List.min?_eq_some_iff]
    constructor
    · simp
    · intro tier htier
      obtain ⟨q, hq, rfl⟩ := List.mem_map.mp htier
      obtain ⟨hq, rank⟩ := List.mem_filter.mp hq
      exact (head_le_of_sorted Precedes.refl sorted rfl hq).tier_le (of_decide_eq_true rank)
  · exact List.find?_cons_of_pos (by simp [inLayer])

/-- The plan of a snapshot whose first target is `p`. -/
def PlanningSnapshot.planWith (s : PlanningSnapshot) (p : PlannedCandidate) : RoutePlan :=
  ⟨s.snapshotId, p.routingIdentity, s.ordered, ⟨p.routingIdentity, 1, false, ⟨s.snapshotId⟩⟩⟩

/-- What is planned, and when: the snapshot is valid, the process has room, and
something is eligible. -/
theorem planSnapshot_ok {s : PlanningSnapshot} {seed : List UInt8} {round : Nat}
    {plan : RoutePlan} : planSnapshot s seed round = .ok plan ↔
      s.validate = .ok () ∧ s.runtime.inFlight < s.runtime.maxConcurrency ∧
        ∃ p, s.ordered.head? = some p ∧ plan = s.planWith p := by
  simp only [planSnapshot, bind_ok, mapError_ok, ite_ok, throw_ok, pure_ok, false_and, exists_false,
    and_false, false_or, Nat.not_le]
  constructor
  · rintro ⟨_, valid, free, -, rank, hrank, tier, htier, q, hq, rfl⟩
    cases ordered : s.ordered with
    | nil => simp [ordered, okOr] at hrank
    | cons p l =>
      obtain ⟨bestTier, find⟩ := scans_find_head ordered
      rw [ordered] at hrank htier hq
      cases hrank
      rw [bestTier] at htier
      cases htier
      rw [find] at hq
      cases hq
      exact ⟨valid, free, q, rfl, by rw [PlanningSnapshot.planWith, ordered]⟩
  · rintro ⟨valid, free, p, head, rfl⟩
    have planned : s.planned ≠ [] := by
      rw [ne_eq, ← ordered_eq_nil]
      intro nil
      rw [nil] at head
      cases head
    cases ordered : s.ordered with
    | nil => rw [ordered] at head; cases head
    | cons q l =>
      rw [ordered] at head
      cases head
      obtain ⟨bestTier, find⟩ := scans_find_head ordered
      refine ⟨(), valid, free, by simpa using planned, p.targetRank, rfl, p.tier, ?_, p, ?_, ?_⟩
      · rw [bestTier]
        rfl
      · rw [find]
        rfl
      · rw [PlanningSnapshot.planWith, ordered]

theorem validate_of_perm {s : PlanningSnapshot} {candidates : List CandidateSnapshot}
    (perm : candidates.Perm s.candidates) :
    ({ s with candidates } : PlanningSnapshot).validate = s.validate := by
  have header : ({ s with candidates } : PlanningSnapshot).headerInvalid ↔ s.headerInvalid := by
    simp only [PlanningSnapshot.headerInvalid, perm.length_eq]
  simp only [PlanningSnapshot.validate, header, perm.any_eq]

theorem planned_of_perm {s : PlanningSnapshot} {candidates : List CandidateSnapshot}
    (perm : candidates.Perm s.candidates) :
    ({ s with candidates } : PlanningSnapshot).planned.Perm s.planned := by
  have median : multiplierMedian ({ s with candidates } : PlanningSnapshot).rateMultipliers =
      multiplierMedian s.rateMultipliers := multiplierMedian_of_perm (perm.filterMap _)
  unfold PlanningSnapshot.planned
  rw [median]
  exact (perm.flatMap_right _).filterMap _

/-- The plan does not depend on the order of the candidates. -/
theorem planSnapshot_of_perm {s : PlanningSnapshot} (wf : s.WellFormed)
    {candidates : List CandidateSnapshot} (perm : candidates.Perm s.candidates)
    (seed : List UInt8) (round : Nat) :
    planSnapshot { s with candidates } seed round = planSnapshot s seed round := by
  have planned := planned_of_perm perm
  have nodup : (candidates.map (·.stationKeyId)).Nodup :=
    ((perm.map _).nodup_iff).mpr wf.stationKeys
  have ordered : ({ s with candidates } : PlanningSnapshot).ordered = s.ordered := by
    refine sortBy_eq_of_perm plannedOrder
      (affinityCorrection_of_perm planned perm nodup s.policy s.profile _) ?_
    intro p hp q hq same
    have identities : (({ s with candidates } : PlanningSnapshot).planned.map
        (·.routingIdentity)).Nodup :=
      ((planned.map _).nodup_iff).mpr (planned_identities wf)
    rw [← affinityCorrection_map (f := (·.routingIdentity)) (fun _ _ _ _ => rfl)] at identities
    exact List.inj_on_of_nodup_map identities hp hq (plannedOrder_eq same)
  simp only [planSnapshot, validate_of_perm perm, ordered, planned.isEmpty_eq]

/-- Each eligible variant stands in the order exactly once. -/
theorem ordered_eligible {s : PlanningSnapshot} (valid : s.validate = .ok ()) :
    (s.ordered.map fun p => (p.stationKeyId, p.variant)).Perm
      ((s.expansion.filter fun e => e.1.eligible s.policy).map
        fun e => (e.1.stationKeyId, e.2)) := by
  refine (ordered_map_perm s fun _ _ _ _ => rfl).trans (List.Perm.of_eq ?_)
  simp only [PlanningSnapshot.validate, bind_ok, mapError_ok, ite_ok, throw_ok, false_and,
    and_false, exists_false, false_or] at valid
  obtain ⟨-, _, policy, _, -, candidates⟩ := valid
  have each : ∀ e ∈ s.expansion, e.1.invalid = false := by
    intro e he
    have he : e.1 ∈ s.candidates ∧ e.2 ∈ e.1.variants := mem_expansion.mp he
    have none : ¬s.candidates.any (·.invalid) := by
      intro any
      simp [any] at candidates
    exact Bool.eq_false_iff.mpr fun h => none (List.any_eq_true.mpr ⟨e.1, he.1, h⟩)
  let plan := fun e : CandidateSnapshot × Option CandidateModelVariant =>
    plannedCandidate e.1 e.2 s.policy (multiplierMedian s.rateMultipliers)
  let keep := fun e : CandidateSnapshot × Option CandidateModelVariant => e.1.eligible s.policy
  show ((s.expansion.filterMap plan).map _) = (s.expansion.filter keep).map _
  generalize s.expansion = l at each
  induction l with
  | nil => rfl
  | cons e l ih =>
    have rest := ih fun e' he' => each e' (List.mem_cons_of_mem _ he')
    by_cases eligible : keep e
    · obtain ⟨p, hp⟩ : ∃ p, plan e = some p :=
        plannedCandidate_isSome policy (each e List.mem_cons_self) eligible e.2 _
      have fields := plannedFrom_of hp
      rw [List.filterMap_cons_some hp, List.filter_cons_of_pos (p := keep) eligible, List.map_cons,
        List.map_cons, rest, fields.stationKeyId, fields.variant]
    · cases hp : plan e with
      | none => rw [List.filterMap_cons_none hp, List.filter_cons_of_neg (p := keep) eligible, rest]
      | some p => exact absurd (plannedFrom_of hp).eligible eligible

/-- The base utility of a target is a function of its own candidate, the policy and
the reference median. -/
theorem ordered_base {s : PlanningSnapshot} (wf : s.WellFormed) {c : CandidateSnapshot}
    (hc : c ∈ s.candidates) {p : PlannedCandidate} (hp : p ∈ s.ordered)
    (key : p.stationKeyId = c.stationKeyId) :
    (weightedScoreComponents c s.policy none (multiplierMedian s.rateMultipliers)).map (·.total) =
      some p.baseUtility.value := by
  have member := ((ordered_map_perm s (f := fun p => (p.stationKeyId, p.baseUtility))
    fun _ _ _ _ => rfl).mem_iff).mp (List.mem_map_of_mem hp)
  obtain ⟨q, hq, same⟩ := List.mem_map.mp member
  obtain ⟨c', variant, he, planned⟩ := mem_planned hq
  have sameKey : c'.stationKeyId = c.stationKeyId := by
    rw [← planned.stationKeyId, ← key]
    exact congrArg Prod.fst same
  cases List.inj_on_of_nodup_map wf.stationKeys (mem_expansion.mp he).1 hc sameKey
  rw [planned.base]
  exact congrArg some (congrArg UtilityScore.value (congrArg Prod.snd same))

/-- The plan of a snapshot does not depend on the order of its candidates. It is
sorted, has each eligible variant exactly once and selects its head, and what a
candidate is worth before the correction depends on the other candidates only
through the median of all rate multipliers. -/
theorem plan_canonical (s : PlanningSnapshot) (wf : s.WellFormed) (seed : List UInt8)
    (round : Nat) :
    (∀ candidates, candidates.Perm s.candidates →
      planSnapshot { s with candidates } seed round = planSnapshot s seed round) ∧
    (∀ plan, planSnapshot s seed round = .ok plan →
      plan.candidates.Pairwise Precedes ∧
      (plan.candidates.map fun p => (p.stationKeyId, p.variant)).Perm
        ((s.expansion.filter fun e => e.1.eligible s.policy).map
          fun e => (e.1.stationKeyId, e.2)) ∧
      plan.candidates.head?.map (·.routingIdentity) = some plan.dispatch.selectedId ∧
      plan.selectedStationKeyId = plan.dispatch.selectedId ∧
      ∀ t : PlanningSnapshot, t.WellFormed → t.policy = s.policy →
        multiplierMedian t.rateMultipliers = multiplierMedian s.rateMultipliers →
        ∀ plan', planSnapshot t seed round = .ok plan' →
        ∀ c ∈ s.candidates, c ∈ t.candidates →
        ∀ p ∈ plan.candidates, ∀ q ∈ plan'.candidates,
          p.stationKeyId = c.stationKeyId → q.stationKeyId = c.stationKeyId →
          p.baseUtility = q.baseUtility) ∧
    (∀ multipliers multipliers' : List Binary64, multipliers.Perm multipliers' →
      multiplierMedian multipliers = multiplierMedian multipliers') := by
  refine ⟨fun candidates perm => planSnapshot_of_perm wf perm seed round, ?_,
    fun _ _ perm => multiplierMedian_of_perm perm⟩
  intro plan ok
  obtain ⟨valid, -, first, head, rfl⟩ := planSnapshot_ok.mp ok
  refine ⟨ordered_pairwise s, ordered_eligible valid, ?_, rfl, ?_⟩
  · show s.ordered.head?.map _ = _
    rw [head]
    rfl
  · intro t wf' policy median plan' ok' c hc hc' p hp q hq keyP keyQ
    obtain ⟨-, -, first', -, rfl⟩ := planSnapshot_ok.mp ok'
    have baseP := ordered_base wf hc hp keyP
    have baseQ := ordered_base wf' hc' hq keyQ
    rw [policy, median, baseP] at baseQ
    exact UtilityScore.ext_get (congrArg BasisPoints.get (Option.some.inj baseQ))

theorem plan_canonical_backup :
    let s := plainSnapshot none [plainKey "b" [], { plainKey "a" [] with backupOnly := true }]
    s.WellFormed ∧
    planSnapshot { s with candidates := s.candidates.reverse } [] 1 = planSnapshot s [] 1 :=
  ⟨⟨by decide +kernel, by decide +kernel⟩,
    (plan_canonical _ ⟨by decide +kernel, by decide +kernel⟩ [] 1).1 _ (List.reverse_perm _)⟩

end RelayPool.Routing
