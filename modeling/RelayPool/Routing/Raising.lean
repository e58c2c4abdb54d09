import RelayPool.Routing.Promotion
import RelayPool.Routing.Weights

/-! Raising a candidate's evidence never costs it its place.

A planned target is named by the place of its candidate in the snapshot and the
place of its variant in the candidate, so that the orders of two snapshots can be
compared whatever their keys are (`placedOrder`). Without affinity, more
reliability, responsiveness or preference of one candidate leaves the order of all
other targets as it was, and moves the candidate's own forward if at all
(`raised_never_later`). -/
namespace RelayPool.Routing
open Ranking Fallible

/-- More of what speaks for a candidate, within the scale. -/
structure Raises (c raised : CandidateSnapshot) : Prop where
  only : raised = { c with
    reliabilityBasisPoints := raised.reliabilityBasisPoints
    responsivenessBasisPoints := raised.responsivenessBasisPoints
    preferenceBasisPoints := raised.preferenceBasisPoints }
  reliability : c.reliabilityBasisPoints ≤ raised.reliabilityBasisPoints
  responsiveness : c.responsivenessBasisPoints ≤ raised.responsivenessBasisPoints
  preference : c.preferenceBasisPoints ≤ raised.preferenceBasisPoints
  within : raised.reliabilityBasisPoints ≤ 10000 ∧ raised.responsivenessBasisPoints ≤ 10000 ∧
    raised.preferenceBasisPoints ≤ 10000

/-! ### The score -/

theorem availableSum_mono {available : Factor → Bool} {f g : Factor → Nat} (le : ∀ i, f i ≤ g i) :
    availableSum available f ≤ availableSum available g :=
  List.sum_le_sum fun i _ => le i

/-- A raised candidate has no lower score. -/
theorem meanScore_mono {c raised : CandidateSnapshot} (raises : Raises c raised)
    (policy : RoutingPolicyConfigV2) (cost : Option BasisPoints) :
    meanScore c policy cost ≤ meanScore raised policy cost := by
  have available : Factor.available raised cost = Factor.available c cost := by
    rw [raises.only]
    funext i
    cases i <;> rfl
  have scores (i : Factor) : Factor.score c cost i ≤ Factor.score raised cost i := by
    cases i with
    | reliability => exact raises.reliability
    | responsiveness => exact raises.responsiveness
    | cost => exact Nat.le_refl _
    | preference => exact raises.preference
  have products : availableSum (Factor.available c cost)
        (fun i => Factor.score c cost i * Factor.weight policy i) ≤
      availableSum (Factor.available c cost)
        (fun i => Factor.score raised cost i * Factor.weight policy i) :=
    availableSum_mono fun i => Nat.mul_le_mul_right (Factor.weight policy i) (scores i)
  unfold meanScore
  rw [available]
  exact min_le_min_right _ (Nat.div_le_div_right (Nat.add_le_add_right products _))

/-! ### One target -/

/-- A target with the score of another candidate. -/
def PlannedCandidate.rescored (score : ScoreComponents) (p : PlannedCandidate) :
    PlannedCandidate :=
  { p with
    baseUtility := ⟨score.total⟩
    utility := ⟨score.total⟩
    contributions := score.contributions }

section Candidate
variable {c raised : CandidateSnapshot} {policy : RoutingPolicyConfigV2}
  {reference : Option Binary64} {score score' : ScoreComponents}

/-- A raised candidate is planned as before, but for its score. -/
theorem plannedCandidate_raised (raises : Raises c raised)
    (before : weightedScoreComponents c policy none reference = some score)
    (after : weightedScoreComponents raised policy none reference = some score')
    (variant : Option CandidateModelVariant) :
    plannedCandidate raised variant policy reference =
      (plannedCandidate c variant policy reference).map (·.rescored score') := by
  have hard : raised.hardEligible = c.hardEligible := by rw [raises.only]
  have tier : plannedTier raised policy = plannedTier c policy := by rw [raises.only]; rfl
  have capability : raised.capabilityBasisPoints = c.capabilityBasisPoints := by rw [raises.only]
  have identity : raised.routingIdentity variant = c.routingIdentity variant := by
    rw [raises.only]
    cases variant <;> rfl
  have key : raised.stationKeyId = c.stationKeyId := by rw [raises.only]
  have revision : raised.credentialRevision = c.credentialRevision := by rw [raises.only]
  unfold plannedCandidate
  rw [hard, tier, capability, before, after, identity, key, revision]
  cases c.hardEligible with
  | false => rfl
  | true =>
    cases plannedTier c policy with
    | none => rfl
    | some tier =>
      by_cases capable : c.capabilityBasisPoints = 0
      · simp [capable]
      · simp [capable, PlannedCandidate.rescored]

/-- All targets of a candidate have its score. -/
theorem utility_of_score (before : weightedScoreComponents c policy none reference = some score)
    {variant : Option CandidateModelVariant} {p : PlannedCandidate}
    (made : plannedCandidate c variant policy reference = some p) : p.utility.value = score.total := by
  have base := (plannedFrom_of made).base
  rw [before] at base
  have uncorrected := congrArg (·.utility.value) (plannedCandidate_uncorrected made)
  exact uncorrected.symm.trans (Option.some.inj base).symm

theorem score_mono (raises : Raises c raised)
    (before : weightedScoreComponents c policy none reference = some score)
    (after : weightedScoreComponents raised policy none reference = some score') :
    score.total.get ≤ score'.total.get := by
  have cost : costBasis raised reference = costBasis c reference := by rw [raises.only]; rfl
  rw [score_total before, score_total after, cost]
  exact meanScore_mono raises policy _

end Candidate

/-- More utility takes a target ahead of all it was ahead of, and of its equals. -/
theorem plannedOrder_rescored {p q : PlannedCandidate} {score : ScoreComponents}
    (more : p.utility.value.get ≤ score.total.get) :
    (plannedOrder p q = .lt → plannedOrder (p.rescored score) q = .lt) ∧
      (plannedOrder p q = .eq → (plannedOrder (p.rescored score) q).isLE = true) := by
  simp only [plannedOrder, compareLex, compareOn, PlannedCandidate.rescored]
  cases compare p.targetRank q.targetRank with
  | lt => simp
  | gt => simp
  | eq =>
    cases compare p.tier q.tier with
    | lt => simp
    | gt => simp
    | eq =>
      rcases Nat.lt_trichotomy q.utility.value.get score.total.get with less | same | greater
      · simp [Nat.compare_eq_lt.mpr less]
      · rcases Nat.lt_or_eq_of_le more with lower | level
        · have before : compare q.utility.value.get p.utility.value.get = .gt :=
            Nat.compare_eq_gt.mpr (same ▸ lower)
          simp [before]
        · rw [← level]
          constructor
          · exact id
          · intro equal
            rw [equal]
            rfl
      · have before : compare q.utility.value.get p.utility.value.get = .gt :=
          Nat.compare_eq_gt.mpr (by omega)
        simp [before]

/-- Targets of one score compare alike under another. -/
theorem plannedOrder_both {p q : PlannedCandidate} (score : ScoreComponents)
    (same : p.utility.value = q.utility.value) :
    plannedOrder (p.rescored score) (q.rescored score) = plannedOrder p q := by
  simp [plannedOrder, compareLex, compareOn, PlannedCandidate.rescored, same]

/-! ### The places of targets -/

/-- The place of a candidate in its snapshot, and of a variant in its candidate. -/
abbrev Place := Nat × Nat

/-- The targets planned from one candidate. -/
def placedTargets (policy : RoutingPolicyConfigV2) (reference : Option Binary64) (i : Nat)
    (c : CandidateSnapshot) : List (Place × PlannedCandidate) :=
  c.variants.zipIdx.filterMap fun (variant, j) =>
    (plannedCandidate c variant policy reference).map fun p => ((i, j), p)

def placedFrom (policy : RoutingPolicyConfigV2) (reference : Option Binary64) (i : Nat)
    (l : List CandidateSnapshot) : List (Place × PlannedCandidate) :=
  (l.zipIdx i).flatMap fun (c, i) => placedTargets policy reference i c

/-- What is planned, with its places. -/
def PlanningSnapshot.placed (s : PlanningSnapshot) : List (Place × PlannedCandidate) :=
  placedFrom s.policy (multiplierMedian s.rateMultipliers) 0 s.candidates

/-- The order of a plan, with the places of its targets. -/
def PlanningSnapshot.placedOrder (s : PlanningSnapshot) : List (Place × PlannedCandidate) :=
  sortBy (comparing plannedOrder Prod.snd) s.placed

/-- Where the target of a place stands in the order. -/
def PlanningSnapshot.position (s : PlanningSnapshot) (place : Place) : Nat :=
  (s.placedOrder.map Prod.fst).idxOf place

section Places
variable {policy : RoutingPolicyConfigV2} {reference : Option Binary64}

theorem placedTargets_snd (i : Nat) (c : CandidateSnapshot) :
    (placedTargets policy reference i c).map Prod.snd =
      c.variants.filterMap fun variant => plannedCandidate c variant policy reference := by
  unfold placedTargets
  conv_rhs => rw [← List.zipIdx_map_fst 0 c.variants]
  rw [List.map_filterMap, List.filterMap_map]
  refine List.filterMap_congr fun e _ => ?_
  simp

theorem placed_snd (s : PlanningSnapshot) : s.placed.map Prod.snd = s.planned := by
  unfold PlanningSnapshot.placed placedFrom PlanningSnapshot.planned PlanningSnapshot.expansion
  conv_rhs => rw [← List.zipIdx_map_fst 0 s.candidates]
  rw [List.map_flatMap, List.flatMap_map, List.filterMap_flatMap]
  refine List.flatMap_congr fun e _ => ?_
  rw [placedTargets_snd, List.filterMap_map]
  rfl

theorem mem_placedTargets {i : Nat} {c : CandidateSnapshot} {place : Place} {p : PlannedCandidate}
    (mem : (place, p) ∈ placedTargets policy reference i c) :
    place.1 = i ∧ ∃ variant, plannedCandidate c variant policy reference = some p := by
  obtain ⟨⟨variant, j⟩, -, made⟩ := List.mem_filterMap.mp mem
  obtain ⟨q, planned, same⟩ := Option.map_eq_some_iff.mp made
  cases same
  exact ⟨rfl, variant, planned⟩

theorem mem_placedFrom {i : Nat} {l : List CandidateSnapshot} {place : Place}
    {p : PlannedCandidate} (mem : (place, p) ∈ placedFrom policy reference i l) :
    i ≤ place.1 ∧ place.1 < i + l.length ∧ ∃ c, l[place.1 - i]? = some c ∧
      ∃ variant, plannedCandidate c variant policy reference = some p := by
  obtain ⟨⟨c, k⟩, here, mem⟩ := List.mem_flatMap.mp mem
  obtain ⟨rfl, made⟩ := mem_placedTargets mem
  have found := List.mk_mem_zipIdx_iff_le_and_getElem?_sub.mp here
  have bound := (List.getElem?_eq_some_iff.mp found.2).1
  exact ⟨found.1, by omega, c, found.2, made⟩

theorem placedFrom_append (i : Nat) (before after : List CandidateSnapshot) :
    placedFrom policy reference i (before ++ after) = placedFrom policy reference i before ++
      placedFrom policy reference (i + before.length) after := by
  unfold placedFrom
  rw [List.zipIdx_append, List.flatMap_append]

theorem placedFrom_cons (i : Nat) (c : CandidateSnapshot) (l : List CandidateSnapshot) :
    placedFrom policy reference i (c :: l) =
      placedTargets policy reference i c ++ placedFrom policy reference (i + 1) l := by
  unfold placedFrom
  rw [List.zipIdx_cons, List.flatMap_cons]

/-- No two targets have one place. -/
theorem placedFrom_nodup (i : Nat) (l : List CandidateSnapshot) :
    ((placedFrom policy reference i l).map Prod.fst).Nodup := by
  induction l generalizing i with
  | nil => exact List.nodup_nil
  | cons c l ih =>
    rw [placedFrom_cons, List.map_append, List.nodup_append]
    refine ⟨?_, ih (i + 1), ?_⟩
    · have indexes : (c.variants.zipIdx.map fun e => ((i, e.2) : Place)).Nodup := by
        have range : (c.variants.zipIdx.map Prod.snd).Nodup := by
          rw [List.zipIdx_map_snd]
          exact List.nodup_range'
        have pairs := range.map (f := fun j => ((i, j) : Place)) fun _ _ same => (Prod.mk.inj same).2
        rwa [List.map_map] at pairs
      refine indexes.sublist (map_filterMap_sublist (fun e b made => ?_) _)
      obtain ⟨p, -, rfl⟩ := Option.map_eq_some_iff.mp made
      rfl
    · intro place here place' there
      obtain ⟨e, mem, rfl⟩ := List.mem_map.mp here
      obtain ⟨e', mem', rfl⟩ := List.mem_map.mp there
      have first := (mem_placedTargets mem).1
      have later := (mem_placedFrom mem').1
      intro same
      rw [same] at first
      omega

end Places

/-! ### The order of a snapshot with a raised candidate -/

/-- The snapshot with another candidate in this place. -/
def PlanningSnapshot.withCandidate (s : PlanningSnapshot) (i : Nat) (c : CandidateSnapshot) :
    PlanningSnapshot :=
  { s with candidates := s.candidates.set i c }

/-- The targets of the candidate in this place, with another score. -/
def lift (i : Nat) (score : ScoreComponents) (e : Place × PlannedCandidate) :
    Place × PlannedCandidate :=
  if e.1.1 = i then (e.1, e.2.rescored score) else e

theorem lift_place (i : Nat) (score : ScoreComponents) (e : Place × PlannedCandidate) :
    (lift i score e).1 = e.1 := by
  unfold lift
  split <;> rfl

section Raised
variable {s : PlanningSnapshot} {i : Nat} {c raised : CandidateSnapshot}
  {score score' : ScoreComponents}

theorem candidates_split (here : s.candidates[i]? = some c) (raised : CandidateSnapshot) :
    ∃ before after, s.candidates = before ++ c :: after ∧
      (s.withCandidate i raised).candidates = before ++ raised :: after ∧ before.length = i := by
  obtain ⟨bound, rfl⟩ := List.getElem?_eq_some_iff.mp here
  refine ⟨s.candidates.take i, s.candidates.drop (i + 1), ?_, ?_, List.length_take_of_le bound.le⟩
  · rw [← List.drop_eq_getElem_cons, List.take_append_drop]
  · exact List.set_eq_take_append_cons_drop.trans (if_pos bound)

theorem median_raised (here : s.candidates[i]? = some c) (raises : Raises c raised) :
    multiplierMedian (s.withCandidate i raised).rateMultipliers =
      multiplierMedian s.rateMultipliers := by
  obtain ⟨before, after, split, split', -⟩ := candidates_split here raised
  have pricing : raised.pricing = c.pricing := by rw [raises.only]
  unfold PlanningSnapshot.rateMultipliers
  rw [split', split, List.filterMap_append, List.filterMap_append, List.filterMap_cons,
    List.filterMap_cons, pricing]

theorem placedTargets_raised (raises : Raises c raised) {policy : RoutingPolicyConfigV2}
    {reference : Option Binary64}
    (before : weightedScoreComponents c policy none reference = some score)
    (after : weightedScoreComponents raised policy none reference = some score') :
    placedTargets policy reference i raised =
      (placedTargets policy reference i c).map (lift i score') := by
  have variants : raised.variants = c.variants := by rw [raises.only]; rfl
  unfold placedTargets
  rw [variants, List.map_filterMap]
  refine List.filterMap_congr fun ⟨variant, j⟩ _ => ?_
  dsimp only
  rw [plannedCandidate_raised raises before after, Option.map_map, Option.map_map]
  refine congrArg (Option.map · _) (funext fun p => ?_)
  simp [lift]

/-- The targets of the other candidates are as they were. -/
theorem placedFrom_lift {policy : RoutingPolicyConfigV2} {reference : Option Binary64} {k : Nat}
    {l : List CandidateSnapshot} (apart : i < k ∨ k + l.length ≤ i) :
    (placedFrom policy reference k l).map (lift i score') = placedFrom policy reference k l := by
  refine (List.map_congr_left fun e mem => ?_).trans (List.map_id _)
  obtain ⟨low, high, -⟩ := mem_placedFrom mem
  exact if_neg (by omega)

theorem placed_raised (here : s.candidates[i]? = some c) (raises : Raises c raised)
    (before : weightedScoreComponents c s.policy none (multiplierMedian s.rateMultipliers) =
      some score)
    (after : weightedScoreComponents raised s.policy none (multiplierMedian s.rateMultipliers) =
      some score') :
    (s.withCandidate i raised).placed = s.placed.map (lift i score') := by
  obtain ⟨left, right, split, split', length⟩ := candidates_split here raised
  have policy : (s.withCandidate i raised).policy = s.policy := rfl
  unfold PlanningSnapshot.placed
  rw [median_raised here raises, split', policy, split]
  rw [placedFrom_append, placedFrom_append, placedFrom_cons, placedFrom_cons, List.map_append,
    List.map_append, length, Nat.zero_add, placedFrom_lift (.inr (by omega)),
    placedFrom_lift (.inl (by omega)), placedTargets_raised raises before after]

theorem mem_placed_utility (here : s.candidates[i]? = some c)
    (before : weightedScoreComponents c s.policy none (multiplierMedian s.rateMultipliers) =
      some score) {e : Place × PlannedCandidate} (mem : e ∈ s.placed) (own : e.1.1 = i) :
    e.2.utility.value = score.total := by
  obtain ⟨-, -, c', found, variant, made⟩ := mem_placedFrom mem
  rw [own, Nat.sub_zero, here, Option.some.injEq] at found
  exact utility_of_score (found ▸ before) made

/-- Lifting does not touch the other targets. -/
theorem filter_lift (l : List (Place × PlannedCandidate)) :
    (l.map (lift i score')).filter (fun e => decide (e.1.1 ≠ i)) =
      l.filter fun e => decide (e.1.1 ≠ i) := by
  induction l with
  | nil => rfl
  | cons e l ih =>
    have place := lift_place i score' e
    by_cases own : e.1.1 = i
    · rw [List.map_cons, List.filter_cons_of_neg (by simp [place, own]),
        List.filter_cons_of_neg (by simp [own]), ih]
    · have untouched : lift i score' e = e := if_neg own
      rw [List.map_cons, List.filter_cons_of_pos (by simp [place, own]),
        List.filter_cons_of_pos (by simp [own]), ih, untouched]

theorem placedOrder_nodup (s : PlanningSnapshot) : (s.placedOrder.map Prod.fst).Nodup :=
  (((sortBy_perm _ s.placed).map Prod.fst).nodup_iff).mpr (placedFrom_nodup ..)

theorem nodup_of_places {l : List (Place × PlannedCandidate)} (nodup : (l.map Prod.fst).Nodup) :
    l.Nodup := nodup.of_map Prod.fst

/-- The place of a target tells where it stands. -/
theorem idxOf_place {l : List (Place × PlannedCandidate)} (nodup : (l.map Prod.fst).Nodup)
    {e : Place × PlannedCandidate} (mem : e ∈ l) : (l.map Prod.fst).idxOf e.1 = l.idxOf e := by
  obtain ⟨before, after, rfl⟩ := List.append_of_mem mem
  rw [List.map_append, List.map_cons] at nodup ⊢
  have fresh : e.1 ∉ before.map Prod.fst := fun early =>
    (List.nodup_append.mp nodup).2.2 _ early _ List.mem_cons_self rfl
  have fresh' : e ∉ before := fun early => fresh (List.mem_map_of_mem early)
  rw [List.idxOf_append_of_notMem fresh, List.idxOf_append_of_notMem fresh', List.idxOf_cons_self,
    List.idxOf_cons_self, List.length_map]

theorem position_raised (here : s.candidates[i]? = some c) (raises : Raises c raised)
    (before : weightedScoreComponents c s.policy none (multiplierMedian s.rateMultipliers) =
      some score)
    (after : weightedScoreComponents raised s.policy none (multiplierMedian s.rateMultipliers) =
      some score') {e : Place × PlannedCandidate} (mem : e ∈ s.placed) (own : e.1.1 = i) :
    (s.withCandidate i raised).position e.1 ≤ s.position e.1 := by
  let cmp := comparing plannedOrder (Prod.snd : Place × PlannedCandidate → PlannedCandidate)
  let cmp' := comparing cmp (lift i score')
  have nodup : s.placed.Nodup := nodup_of_places (placedFrom_nodup ..)
  have ranked' : ((sortBy cmp' s.placed).map Prod.fst).Nodup :=
    (((sortBy_perm cmp' s.placed).map Prod.fst).nodup_iff).mpr (placedFrom_nodup ..)
  have moved : (s.withCandidate i raised).placedOrder.map Prod.fst =
      (sortBy cmp' s.placed).map Prod.fst := by
    unfold PlanningSnapshot.placedOrder
    rw [placed_raised here raises before after, sortBy_map, List.map_map]
    exact List.map_congr_left fun e _ => lift_place i score' e
  have more : e.2.utility.value.get ≤ score'.total.get := by
    rw [mem_placed_utility here before mem own]
    exact score_mono raises before after
  have lifted : (lift i score' e).2 = e.2.rescored score' := by rw [lift, if_pos own]
  -- against its own candidate's targets nothing changes, and it gains on all others
  have gains : ∀ b ∈ s.placed, (cmp e b = .lt → cmp' e b = .lt) ∧
      (cmp e b = .eq → (cmp' e b).isLE = true) := by
    intro b memb
    show (plannedOrder e.2 b.2 = .lt → plannedOrder (lift i score' e).2 (lift i score' b).2 = .lt) ∧
      (plannedOrder e.2 b.2 = .eq →
        (plannedOrder (lift i score' e).2 (lift i score' b).2).isLE = true)
    rw [lifted]
    by_cases sibling : b.1.1 = i
    · have same := (mem_placed_utility here before mem own).trans
        (mem_placed_utility here before memb sibling).symm
      rw [lift, if_pos sibling, plannedOrder_both score' same]
      exact ⟨id, fun equal => by rw [equal]; rfl⟩
    · rw [lift, if_neg sibling]
      exact plannedOrder_rescored more
  unfold PlanningSnapshot.position
  rw [moved, idxOf_place ranked' (mem_sortBy.mpr mem),
    idxOf_place (placedOrder_nodup s) (mem_sortBy.mpr mem)]
  exact idxOf_sortBy_le cmp cmp' nodup mem (fun b memb => (gains b memb).1)
    fun b memb => (gains b memb).2

end Raised

/-! ### The plan -/

/-- No key is preferred for the sake of the session. -/
def WithoutAffinity (s : PlanningSnapshot) : Prop :=
  s.policy.affinityEnabled = false ∨ s.runtime.affinityStationKeyId = none

theorem placedOrder_snd {s : PlanningSnapshot} (without : WithoutAffinity s) :
    s.placedOrder.map Prod.snd = s.ordered := by
  have corrected : applyAffinityCorrection s.planned s.candidates s.policy s.profile
      s.runtime.affinityStationKeyId = s.planned := by
    rcases without with off | absent
    · simp [applyAffinityCorrection, off]
    · simp [applyAffinityCorrection, absent]
  rw [PlanningSnapshot.ordered, corrected, ← placed_snd, sortBy_map]
  rfl

theorem raised_valid {c raised : CandidateSnapshot} (raises : Raises c raised)
    (valid : c.invalid = false) : raised.invalid = false := by
  have within := raises.within
  rw [raises.only]
  simp only [CandidateSnapshot.invalid, Bool.or_eq_false_iff, decide_eq_false_iff_not, not_lt]
    at valid ⊢
  simp only [valid, within, not_false_eq_true, and_self]

/-- What a valid snapshot has been checked for. -/
theorem validate_ok {s : PlanningSnapshot} : s.validate = .ok () ↔
    ¬ s.headerInvalid ∧ s.policy.validate = .ok () ∧ s.profile.validate = .ok () ∧
      ∀ c ∈ s.candidates, c.invalid = false := by
  simp only [PlanningSnapshot.validate, bind_ok, mapError_ok, ite_ok, throw_ok, pure_ok, and_false,
    false_and, false_or, and_true, Bool.not_eq_true, List.any_eq_false, exists_const]
  constructor
  · rintro ⟨header, _, policy, _, profile, candidates⟩
    exact ⟨header, policy, profile, candidates⟩
  · rintro ⟨header, policy, profile, candidates⟩
    exact ⟨header, (), policy, (), profile, candidates⟩

theorem validate_withCandidate {s : PlanningSnapshot} {i : Nat} {c raised : CandidateSnapshot}
    (here : s.candidates[i]? = some c) (raises : Raises c raised) (valid : s.validate = .ok ()) :
    (s.withCandidate i raised).validate = .ok () := by
  obtain ⟨header, policy, profile, candidates⟩ := validate_ok.mp valid
  refine validate_ok.mpr ⟨?_, policy, profile, fun other mem => ?_⟩
  · have length : (s.withCandidate i raised).candidates.length = s.candidates.length :=
      List.length_set ..
    unfold PlanningSnapshot.headerInvalid at header ⊢
    rwa [length]
  · rcases List.mem_or_eq_of_mem_set mem with old | rfl
    · exact candidates other old
    · exact raised_valid raises (candidates c (List.mem_of_getElem? here))

/-- Without affinity, raising one candidate of a snapshot leaves it a plan in which the
others stand in their order, and the raised candidate's targets have no less utility
and stand no later. -/
theorem raised_never_later (s : PlanningSnapshot) (without : WithoutAffinity s) (i : Nat)
    (c raised : CandidateSnapshot) (here : s.candidates[i]? = some c) (raises : Raises c raised)
    (seed : List UInt8) (round : Nat) (plan : RoutePlan)
    (ok : planSnapshot s seed round = .ok plan) :
    ∃ plan', planSnapshot (s.withCandidate i raised) seed round = .ok plan' ∧
      s.placedOrder.map Prod.snd = plan.candidates ∧
      (s.withCandidate i raised).placedOrder.map Prod.snd = plan'.candidates ∧
      (∀ place p, (place, p) ∈ s.placedOrder → place.1 = i →
        ∃ p', (place, p') ∈ (s.withCandidate i raised).placedOrder ∧
          p.utility.value.get ≤ p'.utility.value.get ∧
          (s.withCandidate i raised).position place ≤ s.position place) ∧
      (s.withCandidate i raised).placedOrder.filter (fun e => decide (e.1.1 ≠ i)) =
        s.placedOrder.filter fun e => decide (e.1.1 ≠ i) := by
  obtain ⟨valid, room, first, head, rfl⟩ := planSnapshot_ok.mp ok
  obtain ⟨-, policy, -, candidates⟩ := validate_ok.mp valid
  have validC := candidates c (List.mem_of_getElem? here)
  obtain ⟨score, before⟩ := weightedScoreComponents_isSome policy validC none
    (multiplierMedian s.rateMultipliers)
  obtain ⟨score', after⟩ := weightedScoreComponents_isSome policy (raised_valid raises validC) none
    (multiplierMedian s.rateMultipliers)
  have placed := placed_raised here raises before after
  have ordered := placedOrder_snd without
  have ordered' : (s.withCandidate i raised).placedOrder.map Prod.snd =
      (s.withCandidate i raised).ordered := placedOrder_snd without
  have some' : ∃ first', (s.withCandidate i raised).ordered.head? = some first' := by
    cases empty : (s.withCandidate i raised).ordered with
    | cons first' rest => exact ⟨first', rfl⟩
    | nil =>
      rw [← ordered', List.map_eq_nil_iff, PlanningSnapshot.placedOrder, sortBy_eq_nil, placed,
        List.map_eq_nil_iff] at empty
      rw [← ordered, PlanningSnapshot.placedOrder, empty] at head
      cases head
  obtain ⟨first', head'⟩ := some'
  refine ⟨_, planSnapshot_ok.mpr ⟨validate_withCandidate here raises valid, room, first', head', rfl⟩,
    ordered, ordered', ?_, ?_⟩
  · intro place p mem own
    have mem := mem_sortBy.mp mem
    refine ⟨p.rescored score', ?_, ?_, position_raised here raises before after mem own⟩
    · have lifted : lift i score' (place, p) = (place, p.rescored score') := if_pos own
      rw [PlanningSnapshot.placedOrder, mem_sortBy, placed, ← lifted]
      exact List.mem_map_of_mem mem
    · rw [mem_placed_utility here before mem own]
      exact score_mono raises before after
  · unfold PlanningSnapshot.placedOrder
    rw [← sortBy_filter, ← sortBy_filter, placed, filter_lift]

/-- Two keys; raising the second takes it to the front. -/
def raisingSample : PlanningSnapshot :=
  plainSnapshot none [{ plainKey "a" [] with reliabilityBasisPoints := 9000 },
    { plainKey "b" [] with reliabilityBasisPoints := 8000 }]

theorem raised_never_later_sample :
    (raisingSample.withCandidate 1 (plainKey "b" [])).position (1, 0) ≤
      raisingSample.position (1, 0) := by
  cases head : raisingSample.ordered.head? with
  | none => exact absurd head (by decide +kernel)
  | some first =>
    have ok : planSnapshot raisingSample [] 1 = .ok (raisingSample.planWith first) :=
      planSnapshot_ok.mpr ⟨by decide +kernel, by decide +kernel, first, head, rfl⟩
    obtain ⟨plan', -, -, -, own, -⟩ := raised_never_later raisingSample (.inl rfl) 1
      { plainKey "b" [] with reliabilityBasisPoints := 8000 } (plainKey "b" []) rfl
      ⟨rfl, by decide, by decide, by decide, by decide⟩ [] 1 _ ok
    have places : raisingSample.placedOrder.map Prod.fst = [(0, 0), (1, 0)] := by decide +kernel
    have listed : ((1, 0) : Place) ∈ raisingSample.placedOrder.map Prod.fst := by
      rw [places]
      decide
    obtain ⟨⟨place, p⟩, mem, rfl⟩ := List.mem_map.mp listed
    obtain ⟨-, -, -, position⟩ := own (1, 0) p mem rfl
    exact position

end RelayPool.Routing
