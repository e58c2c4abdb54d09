import RelayPool.Routing.Execute

/-! Planning while the configuration does not change.

The loads of a request then differ in the runtime overlay only, and what the
coordinator answers is a function of the keys it has left out: the first target of
the order of the others (`next_takes_first`), or that there is none
(`next_finds_none`). -/
namespace RelayPool.Routing
open Fallible RouteAdmissionCoordinator

/-! ### The order without some keys -/

/-- The snapshot without some of its keys. -/
def PlanningSnapshot.without (s : PlanningSnapshot) (keys : Finset String) : PlanningSnapshot :=
  { s with candidates := s.candidates.filter fun c => !decide (c.stationKeyId ∈ keys) }

/-- The first target in the order of the keys that are not left out. -/
def PlanningSnapshot.first (s : PlanningSnapshot) (left : Finset String) :
    Option PlannedCandidate := (s.without left).ordered.head?

/-- The station keys in planning order: each is that of the first target when the
ones before it are left out. -/
def PlanningSnapshot.InOrder (s : PlanningSnapshot) (left : Finset String) : List String → Prop
  | [] => True
  | key :: rest => (s.first left).map (·.stationKeyId) = some key ∧ s.InOrder (insert key left) rest

instance PlanningSnapshot.decidableInOrder (s : PlanningSnapshot) :
    (left : Finset String) → (keys : List String) → Decidable (s.InOrder left keys)
  | _, [] => isTrue trivial
  | left, key :: rest =>
    have := s.decidableInOrder (insert key left) rest
    inferInstanceAs (Decidable (_ ∧ _))

/-- The key at the head of an order. -/
theorem first_of_inOrder {s : PlanningSnapshot} {left : Finset String} {key : String}
    {rest : List String} (order : s.InOrder left (key :: rest)) :
    ∃ p, s.first left = some p ∧ p.stationKeyId = key :=
  Option.map_eq_some_iff.mp order.1

theorem PlanningSnapshot.inOrder_append {s : PlanningSnapshot} {left : Finset String}
    {keys keys' : List String} :
    s.InOrder left (keys ++ keys') ↔
      s.InOrder left keys ∧ s.InOrder (left ∪ keys.toFinset) keys' := by
  induction keys generalizing left with
  | nil => simp [InOrder]
  | cons key rest ih =>
    rw [List.cons_append, InOrder, InOrder, ih, and_assoc, List.toFinset_cons,
      Finset.insert_union, Finset.union_insert]

theorem without_validate {s : PlanningSnapshot} (valid : s.validate = .ok ())
    (keys : Finset String) : (s.without keys).validate = .ok () := by
  simp only [PlanningSnapshot.validate, bind_ok, mapError_ok, ite_ok, throw_ok, false_and,
    and_false, exists_false, false_or] at valid ⊢
  obtain ⟨header, u, policy, u', profile, candidates⟩ := valid
  refine ⟨?_, u, policy, u', profile, ?_⟩
  · have shorter := List.length_filter_le
      (fun c : CandidateSnapshot => !decide (c.stationKeyId ∈ keys)) s.candidates
    simp only [PlanningSnapshot.headerInvalid, PlanningSnapshot.without] at header ⊢
    push Not at header ⊢
    refine ⟨header.1, header.2.1, header.2.2.1, header.2.2.2.1, header.2.2.2.2.1,
      header.2.2.2.2.2.1, ?_, header.2.2.2.2.2.2.2.1, ?_, header.2.2.2.2.2.2.2.2.2⟩
    · omega
    · omega
  · refine ⟨fun invalid => candidates.1 ?_, candidates.2⟩
    obtain ⟨c, hc, invalid⟩ := List.any_eq_true.mp invalid
    exact List.any_eq_true.mpr ⟨c, (List.mem_filter.mp hc).1, invalid⟩

theorem planSnapshot_of_first {s : PlanningSnapshot} (valid : s.validate = .ok ())
    (free : s.runtime.inFlight < s.runtime.maxConcurrency) {left : Finset String}
    {p : PlannedCandidate} (first : s.first left = some p) (seed : List UInt8) (round : Nat) :
    planSnapshot (s.without left) seed round = .ok ((s.without left).planWith p) :=
  planSnapshot_ok.mpr ⟨without_validate valid left, free, p, first, rfl⟩

theorem planSnapshot_of_none {s : PlanningSnapshot} (valid : s.validate = .ok ())
    (free : s.runtime.inFlight < s.runtime.maxConcurrency) {left : Finset String}
    (none : s.first left = none) (seed : List UInt8) (round : Nat) :
    planSnapshot (s.without left) seed round = .error .noEligibleCandidate := by
  have planned : (s.without left).planned = [] :=
    ordered_eq_nil.mp (List.head?_eq_none_iff.mp none)
  have room : ¬(s.without left).runtime.maxConcurrency ≤ (s.without left).runtime.inFlight :=
    Nat.not_le.mpr free
  simp only [planSnapshot, without_validate valid left, planned, room]
  rfl

/-! ### A configuration that does not change -/

/-- A later load: the runtime overlay may have moved, and the process has room. -/
structure SameConfiguration (initial s : RouteSnapshots) : Prop where
  targets : s.targets = initial.targets
  planning : ∃ runtime : RuntimeOverlaySnapshot,
    runtime.affinityStationKeyId = initial.planning.runtime.affinityStationKeyId ∧
      s.planning = { initial.planning with runtime }
  free : s.planning.runtime.inFlight < s.planning.runtime.maxConcurrency

/-- The rows of the keys are still at the revisions that were planned on. -/
def Settled (s : RouteSnapshots) : Prop :=
  ∀ c ∈ s.planning.candidates, ∃ target,
    (s.targets.reverse.find? fun t => decide (t.stationKeyId = c.stationKeyId)) = some target ∧
      target.credentialRevision = c.credentialRevision

/-- A key whose requests find capacity under these counters. -/
def HasCapacity (active : CompositeCapacityRequest → CapacityConstraintKey → Nat)
    (key : String) : Prop :=
  ∀ request : CompositeCapacityRequest, request.stationKeyId = key →
    ∃ lease, tryAcquire (active request) request = .ok lease

namespace SameConfiguration
variable {initial s : RouteSnapshots} (h : SameConfiguration initial s)
include h

theorem first (left : Finset String) : s.planning.first left = initial.planning.first left := by
  obtain ⟨runtime, affinity, eq⟩ := h.planning
  rw [eq]
  unfold PlanningSnapshot.first PlanningSnapshot.ordered
  show (Ranking.sortBy _ (applyAffinityCorrection _ _ _ _ runtime.affinityStationKeyId)).head? = _
  rw [affinity]
  rfl

theorem candidates : s.planning.candidates = initial.planning.candidates := by
  obtain ⟨runtime, -, eq⟩ := h.planning
  rw [eq]

theorem trigger : s.planning.modelFallbackTrigger = initial.planning.modelFallbackTrigger := by
  obtain ⟨runtime, -, eq⟩ := h.planning
  rw [eq]

theorem durableRevision : s.planning.durableRevision = initial.planning.durableRevision := by
  obtain ⟨runtime, -, eq⟩ := h.planning
  rw [eq]

theorem settled (settled : Settled initial) : Settled s := by
  unfold Settled
  rw [h.candidates, h.targets]
  exact settled

end SameConfiguration

/-! ### What the coordinator answers -/

/-- What the coordinator is asked with the loads of a request. -/
structure AsksWith (input : AdmissionPlanningInput) (s : RouteSnapshots) : Prop where
  planningSnapshot : input.planningSnapshot = s.planning
  executionCandidates : input.executionCandidates = s.operational.candidates
  profiles : input.profiles = s.operational.profiles

theorem candidates_of_first {s : PlanningSnapshot} {p : PlannedCandidate} {left : Finset String}
    (first : s.first left = some p) : s.candidates ≠ [] := by
  obtain ⟨k, variant, stands⟩ := ordered_stands (List.mem_of_head? first)
  exact List.ne_nil_of_mem (List.mem_filter.mp (mem_expansion.mp stands.member).1).1

/-- A coordinator that finds nothing in its way in a steady configuration. -/
structure Clear (c : RouteAdmissionCoordinator) (input : AdmissionPlanningInput)
    (s : RouteSnapshots) : Prop where
  asks : AsksWith input s
  unblocked : c.fallbackBlocked = none
  inTime : input.nowMs < c.progress.deadlineMs
  current : input.currentRuntimeOverlayRevision = c.runtimeOverlayRevision
  free : s.planning.runtime.inFlight < s.planning.runtime.maxConcurrency
  settled : Settled s
  passCapacity : c.passCapacity = .empty
  generation : c.durableGeneration = s.planning.durableRevision

/-- Candidates make the population counts positive. -/
theorem population_of_candidates {s : PlanningSnapshot} (valid : s.validate = .ok ())
    (some_ : s.candidates ≠ []) : candidatePopulationFailure s = none := by
  simp only [PlanningSnapshot.validate, bind_ok, mapError_ok, ite_ok, throw_ok, false_and,
    and_false, exists_false, false_or] at valid
  have header := valid.1
  simp only [PlanningSnapshot.headerInvalid] at header
  push Not at header
  have length := List.length_pos_of_ne_nil some_
  obtain ⟨-, -, -, -, matched, capped, counted, -⟩ := header
  unfold candidatePopulationFailure
  rw [if_neg (by omega), if_neg (by omega), if_neg (by omega)]

theorem Clear.mayPlan {c : RouteAdmissionCoordinator} {input : AdmissionPlanningInput}
    {s : RouteSnapshots} (h : Clear c input s) (some_ : s.planning.candidates ≠ []) :
    MayPlan c input := by
  refine ⟨h.unblocked, h.inTime, h.current, ?_⟩
  rw [h.asks.planningSnapshot]
  exact population_of_candidates s.valid some_

/-- The execution candidate of a target is found by the target's identity. -/
theorem find_executionCandidate (s : RouteSnapshots) {c : CandidateSnapshot}
    {variant : Option CandidateModelVariant} (member : (c, variant) ∈ s.planning.expansion) :
    (s.operational.candidates.find? fun e =>
        decide (e.routingIdentity = c.routingIdentity variant)) =
      some (executionCandidate c variant) := by
  have identity : ((·.routingIdentity) ∘ fun e : CandidateSnapshot × Option CandidateModelVariant =>
      executionCandidate e.1 e.2) = fun e => e.1.routingIdentity e.2 :=
    funext fun e => executionCandidate_routingIdentity e.1 e.2
  have nodup : (s.operational.candidates.map (·.routingIdentity)).Nodup := by
    show (List.map _ (List.map _ _)).Nodup
    rw [List.map_map, identity]
    exact s.wellFormed.identities
  have here : executionCandidate c variant ∈ s.operational.candidates :=
    List.mem_map.mpr ⟨_, member, rfl⟩
  have found := Ranking.find_of_nodup nodup here
  rwa [executionCandidate_routingIdentity] at found

/-- The first target's key is not left out, and is that of an execution candidate. -/
theorem offered_of_first (s : RouteSnapshots) {p : PlannedCandidate} {left : Finset String}
    (first : s.planning.first left = some p) :
    p.stationKeyId ∉ left ∧ p.stationKeyId ∈ s.operational.candidates.map (·.stationKeyId) := by
  obtain ⟨k, variant, stands⟩ := ordered_stands (List.mem_of_head? first)
  obtain ⟨member, inVariants⟩ := mem_expansion.mp stands.member
  obtain ⟨member, out⟩ := List.mem_filter.mp member
  rw [stands.stationKeyId]
  refine ⟨by simpa using out, List.mem_map.mpr ⟨executionCandidate k variant, ?_, rfl⟩⟩
  exact List.mem_map.mpr ⟨(k, variant), mem_expansion.mpr ⟨member, inVariants⟩, rfl⟩

theorem mapGet_profile (s : RouteSnapshots) {c : CandidateSnapshot}
    (member : c ∈ s.planning.candidates) :
    mapGet s.operational.profiles c.stationKeyId = some (admissionProfile s.planning c
      (s.targets.reverse.find? fun t => decide (t.stationKeyId = c.stationKeyId))) := by
  refine mapGet_of_mem ?_ (List.mem_map.mpr ⟨c, member, rfl⟩)
  show (List.map _ (List.map _ _)).Nodup
  rw [List.map_map]
  exact s.wellFormed.stationKeys

/-- In a settled configuration no target is found changed. -/
theorem profile_stands {s : RouteSnapshots} (settled : Settled s) {c : RouteAdmissionCoordinator}
    (generation : c.durableGeneration = s.planning.durableRevision) {k : CandidateSnapshot}
    (member : k ∈ s.planning.candidates) (variant : Option CandidateModelVariant)
    (plan : RoutePlan) (p : PlannedCandidate) :
    c.profileInvalidatesCandidate (selectedCandidate plan p (executionCandidate k variant))
      (admissionProfile s.planning k
        (s.targets.reverse.find? fun t => decide (t.stationKeyId = k.stationKeyId))) = false := by
  obtain ⟨target, found, credential⟩ := settled k member
  rw [found]
  simp [profileInvalidatesCandidate, admissionProfile, selectedCandidate, executionCandidate,
    credential, generation]

/-- The gates are open for the first target. -/
structure MayTake (c : RouteAdmissionCoordinator) (s : PlanningSnapshot) (p : PlannedCandidate) :
    Prop where
  budget : c.progress.attemptCount < c.maxAttempts
  rankLimit : modelFallbackRankAllowed c.modelFallbackRankLimit p.targetRank
  fallback : s.modelFallbackTrigger = some .retryExhaustedBeforeOutput → 0 < p.targetRank →
    retryExhaustedFallbackIsOpen s.candidates c.progress c.attemptedModelTargetRanks

theorem gate_of_mayTake {c : RouteAdmissionCoordinator} {s : PlanningSnapshot} {plan : RoutePlan}
    {p : PlannedCandidate} (trigger : c.modelFallbackTrigger = s.modelFallbackTrigger)
    (nonempty : plan.candidates ≠ []) (best : bestTargetRank plan = p.targetRank)
    (h : MayTake c s p) : c.gate s plan = .ok () := by
  have budget := h.budget
  have notEmpty : plan.candidates.isEmpty = false := by
    rw [Bool.eq_false_iff]
    simpa using nonempty
  simp only [gate, notEmpty, best, h.rankLimit, bind_ok, ite_ok, throw_ok, pure_ok, false_and,
    exists_false, and_false, false_or, and_true]
  refine ⟨Bool.false_ne_true, by omega, by simp, ?_⟩
  rintro ⟨retry, positive, shut⟩
  rw [h.fallback (trigger.symm.trans retry) positive] at shut
  cases shut

/-- Behind open gates the targets of the best rank are tried in order. -/
theorem planAndAdmit_of_gate {c : RouteAdmissionCoordinator} {input : AdmissionPlanningInput}
    {plan : RoutePlan}
    (planned : planSnapshot (c.workingSnapshot input.planningSnapshot) input.rootSeed
      (c.progress.ordinal + 1) = .ok plan)
    (gate : c.gate input.planningSnapshot plan = .ok ()) :
    c.planAndAdmit input = tryCandidates input plan c (offered plan) := by
  unfold planAndAdmit
  rw [planned]
  dsimp only
  rw [gate]
  rfl

/-- The first target tried is taken when its rows stand and it finds capacity. -/
theorem tryCandidates_takes_head {c : RouteAdmissionCoordinator} {input : AdmissionPlanningInput}
    {plan : RoutePlan} {p : PlannedCandidate} {rest : List PlannedCandidate}
    {base : RoutePlanCandidate} {profile : CandidateAdmissionProfile}
    (found : (input.executionCandidates.find? fun e =>
      decide (e.routingIdentity = p.routingIdentity)) = some base)
    (hasProfile : mapGet input.profiles base.stationKeyId = some profile)
    (passCapacity : c.passCapacity = .empty)
    (stands : c.profileInvalidatesCandidate (selectedCandidate plan p base) profile = false)
    (capacity : HasCapacity input.active base.stationKeyId) :
    ∃ route, tryCandidates input plan c (p :: rest) = (c, .ok (.selected route)) ∧
      route.candidate.stationKeyId = base.stationKeyId := by
  have unblocked : c.capacityStateBlocksCandidate (selectedCandidate plan p base) profile =
      false := by
    rw [capacityStateBlocksCandidate, passCapacity]
    rfl
  obtain ⟨lease, acquired⟩ := capacity
    (profile.capacityRequest (selectedCandidate plan p base)) rfl
  have hasProfile : mapGet input.profiles (selectedCandidate plan p base).stationKeyId =
      some profile := hasProfile
  rw [tryCandidates, found]
  dsimp only
  rw [hasProfile]
  dsimp only
  rw [unblocked, stands, if_neg Bool.false_ne_true, if_neg Bool.false_ne_true, acquired]
  exact ⟨_, rfl, rfl⟩

/-- A clear coordinator takes the first target of the keys that are not left out. -/
theorem next_takes_first {c : RouteAdmissionCoordinator} {input : AdmissionPlanningInput}
    {s : RouteSnapshots} {p : PlannedCandidate} (h : Clear c input s)
    (first : s.planning.first c.progress.actualAttemptExclusions = some p)
    (may : MayTake c s.planning p) (capacity : HasCapacity input.active p.stationKeyId) :
    ∃ route, c.next input = (c.noted s.planning, .ok (.selected route)) ∧
      route.candidate.stationKeyId = p.stationKeyId := by
  have planned : p ∈ (s.planning.without c.progress.actualAttemptExclusions).ordered :=
    List.mem_of_head? first
  obtain ⟨k, variant, stands⟩ := ordered_stands planned
  obtain ⟨member, inVariants⟩ := mem_expansion.mp stands.member
  have member : k ∈ s.planning.candidates := (List.mem_filter.mp member).1
  have entry : (k, variant) ∈ s.planning.expansion := mem_expansion.mpr ⟨member, inVariants⟩
  obtain ⟨best, rest, offers⟩ := offered_head first
  have plan := planSnapshot_of_first s.valid h.free first input.rootSeed (c.progress.ordinal + 1)
  have open_ : (c.noted s.planning).gate s.planning
      ((s.planning.without c.progress.actualAttemptExclusions).planWith p) = .ok () :=
    gate_of_mayTake rfl (List.ne_nil_of_mem planned) best ⟨may.budget, may.rankLimit, may.fallback⟩
  rw [next_of_mayPlan (h.mayPlan (List.ne_nil_of_mem member)), h.asks.planningSnapshot]
  rw [← h.asks.planningSnapshot] at plan open_ ⊢
  rw [planAndAdmit_of_gate (c := c.noted input.planningSnapshot) plan open_]
  rw [h.asks.planningSnapshot, offers]
  have found := find_executionCandidate s entry
  rw [← stands.routingIdentity, ← h.asks.executionCandidates] at found
  have profile := mapGet_profile s member
  rw [← h.asks.profiles] at profile
  have key : p.stationKeyId = (executionCandidate k variant).stationKeyId := stands.stationKeyId
  rw [key] at capacity ⊢
  exact tryCandidates_takes_head found profile h.passCapacity
    (profile_stands h.settled h.generation member variant _ p) capacity

/-- A clear coordinator that has left out every key finds none. -/
theorem next_finds_none {c : RouteAdmissionCoordinator} {input : AdmissionPlanningInput}
    {s : RouteSnapshots} (h : Clear c input s) (some_ : s.planning.candidates ≠ [])
    (none : s.planning.first c.progress.actualAttemptExclusions = none) :
    c.next input = (c.noted s.planning, .error (failure .noEligible "no_available_key")) := by
  have plan := planSnapshot_of_none s.valid h.free none input.rootSeed (c.progress.ordinal + 1)
  rw [next_of_mayPlan (h.mayPlan some_), h.asks.planningSnapshot]
  unfold planAndAdmit
  rw [h.asks.planningSnapshot]
  rw [show planSnapshot ((c.noted s.planning).workingSnapshot s.planning) input.rootSeed
    ((c.noted s.planning).progress.ordinal + 1) = .error .noEligibleCandidate from plan]
  rfl

/-- The gate is shut for a fallback that waits for a rank-0 attempt. -/
theorem gate_of_waiting {c : RouteAdmissionCoordinator} {s : PlanningSnapshot} {plan : RoutePlan}
    (nonempty : plan.candidates ≠ []) (budget : c.progress.attemptCount < c.maxAttempts)
    (unlimited : c.modelFallbackRankLimit = none)
    (retry : c.modelFallbackTrigger = some .retryExhaustedBeforeOutput)
    (positive : 0 < bestTargetRank plan)
    (shut : retryExhaustedFallbackIsOpen s.candidates c.progress c.attemptedModelTargetRanks =
      false) :
    c.gate s plan = .error (failure .noEligible "fallback_requires_rank_zero_attempt") := by
  have notEmpty : plan.candidates.isEmpty = false := by
    rw [Bool.eq_false_iff]
    simpa using nonempty
  have within : ¬c.maxAttempts ≤ c.progress.attemptCount := Nat.not_le.mpr budget
  have allowed : modelFallbackRankAllowed c.modelFallbackRankLimit (bestTargetRank plan) = true := by
    rw [unlimited]
    rfl
  simp [gate, notEmpty, within, allowed, retry, positive, shut]
  rfl

/-- A coordinator whose first target waits for a rank-0 attempt refuses it. -/
theorem next_waits_for_rankZero {c : RouteAdmissionCoordinator} {input : AdmissionPlanningInput}
    {s : RouteSnapshots} {p : PlannedCandidate} (h : Clear c input s)
    (first : s.planning.first c.progress.actualAttemptExclusions = some p)
    (budget : c.progress.attemptCount < c.maxAttempts)
    (unlimited : c.modelFallbackRankLimit = none)
    (retry : s.planning.modelFallbackTrigger = some .retryExhaustedBeforeOutput)
    (positive : 0 < p.targetRank)
    (shut : retryExhaustedFallbackIsOpen s.planning.candidates c.progress
      c.attemptedModelTargetRanks = false) :
    c.next input = (c.noted s.planning,
      .error (failure .noEligible "fallback_requires_rank_zero_attempt")) := by
  have planned : p ∈ (s.planning.without c.progress.actualAttemptExclusions).ordered :=
    List.mem_of_head? first
  obtain ⟨k, variant, stands⟩ := ordered_stands planned
  have member : k ∈ s.planning.candidates :=
    (List.mem_filter.mp (mem_expansion.mp stands.member).1).1
  obtain ⟨best, -⟩ := offered_head first
  have plan := planSnapshot_of_first s.valid h.free first input.rootSeed (c.progress.ordinal + 1)
  have gate : (c.noted s.planning).gate s.planning
      ((s.planning.without c.progress.actualAttemptExclusions).planWith p) =
      .error (failure .noEligible "fallback_requires_rank_zero_attempt") :=
    gate_of_waiting (List.ne_nil_of_mem planned) budget unlimited retry (best ▸ positive) shut
  rw [next_of_mayPlan (h.mayPlan (List.ne_nil_of_mem member)), h.asks.planningSnapshot]
  unfold planAndAdmit
  rw [h.asks.planningSnapshot]
  rw [show planSnapshot ((c.noted s.planning).workingSnapshot s.planning) input.rootSeed
    ((c.noted s.planning).progress.ordinal + 1) = .ok _ from plan]
  dsimp only
  rw [gate]

/-- A coordinator whose attempts are used up takes no further key. -/
theorem next_spent {c : RouteAdmissionCoordinator} {input : AdmissionPlanningInput}
    {s : RouteSnapshots} {p : PlannedCandidate} (h : Clear c input s)
    (first : s.planning.first c.progress.actualAttemptExclusions = some p)
    (spent : c.maxAttempts ≤ c.progress.attemptCount) :
    c.next input =
      (c.noted s.planning, .error (failure .attemptLimit "attempt_limit_reached")) := by
  have planned : p ∈ (s.planning.without c.progress.actualAttemptExclusions).ordered :=
    List.mem_of_head? first
  have plan := planSnapshot_of_first s.valid h.free first input.rootSeed (c.progress.ordinal + 1)
  have gate : (c.noted s.planning).gate s.planning
      ((s.planning.without c.progress.actualAttemptExclusions).planWith p) =
      .error (failure .attemptLimit "attempt_limit_reached") := by
    have notEmpty : ((s.planning.without
        c.progress.actualAttemptExclusions).planWith p).candidates.isEmpty = false := by
      rw [Bool.eq_false_iff]
      exact fun empty => List.ne_nil_of_mem planned (List.isEmpty_iff.mp empty)
    have spent : (c.noted s.planning).maxAttempts ≤ (c.noted s.planning).progress.attemptCount :=
      spent
    simp [RouteAdmissionCoordinator.gate, notEmpty, spent]
    rfl
  rw [next_of_mayPlan (h.mayPlan (candidates_of_first first)), h.asks.planningSnapshot]
  unfold planAndAdmit
  rw [h.asks.planningSnapshot]
  rw [show planSnapshot ((c.noted s.planning).workingSnapshot s.planning) input.rootSeed
    ((c.noted s.planning).progress.ordinal + 1) = .ok _ from plan]
  dsimp only
  rw [gate]

/-- A coordinator whose view of the runtime is behind plans again. -/
theorem next_replans {c : RouteAdmissionCoordinator} {input : AdmissionPlanningInput}
    (unblocked : c.fallbackBlocked = none) (inTime : input.nowMs < c.progress.deadlineMs)
    (behind : input.currentRuntimeOverlayRevision ≠ c.runtimeOverlayRevision)
    (few : c.progress.runtimeRebuildCount < maxRuntimeOnlyReplans) :
    c.next input =
      (c.runtimeChanged input.currentRuntimeOverlayRevision, .ok (.replan .runtimeReplan)) := by
  have rebuilds : ¬maxRuntimeOnlyReplans < (c.runtimeChanged
      input.currentRuntimeOverlayRevision).progress.runtimeRebuildCount := by
    show ¬maxRuntimeOnlyReplans < min (c.progress.runtimeRebuildCount + 1) (2 ^ 32 - 1)
    omega
  unfold next
  rw [unblocked]
  dsimp only
  rw [if_neg (by omega), if_pos behind, if_neg rebuilds]

/-- The keys of a validated snapshot have names. -/
theorem named_of_first {s : PlanningSnapshot} (valid : s.validate = .ok ())
    {p : PlannedCandidate} {left : Finset String} (first : s.first left = some p) :
    p.stationKeyId ≠ "" := by
  obtain ⟨k, variant, stands⟩ := ordered_stands (List.mem_of_head? first)
  have member : k ∈ s.candidates :=
    (List.mem_filter.mp (mem_expansion.mp stands.member).1).1
  simp only [PlanningSnapshot.validate, bind_ok, mapError_ok, ite_ok, throw_ok, false_and,
    and_false, exists_false, false_or] at valid
  obtain ⟨-, -, -, -, -, candidates, -⟩ := valid
  intro unnamed
  refine candidates (List.any_eq_true.mpr ⟨k, member, ?_⟩)
  rw [stands.stationKeyId] at unnamed
  simp [CandidateSnapshot.invalid, unnamed]

/-- A key left out that has a rank-0 target opens the fallback. -/
theorem rankZero_opens {s : PlanningSnapshot} {p : PlannedCandidate} {left : Finset String}
    (first : s.first left = some p) (zero : p.targetRank = 0) {progress : RouteProgress}
    (excluded : p.stationKeyId ∈ progress.actualAttemptExclusions) (ranks : Finset Nat) :
    retryExhaustedFallbackIsOpen s.candidates progress ranks = true := by
  obtain ⟨k, variant, stands⟩ := ordered_stands (List.mem_of_head? first)
  obtain ⟨member, inVariants⟩ := mem_expansion.mp stands.member
  have member : k ∈ s.candidates := (List.mem_filter.mp member).1
  have rank : (variant.map (·.targetRank)).getD 0 = 0 := stands.targetRank.symm.trans zero
  rw [stands.stationKeyId] at excluded
  simp only [retryExhaustedFallbackIsOpen, Bool.or_eq_true, List.any_eq_true, Bool.and_eq_true,
    decide_eq_true_eq]
  refine .inr ⟨k, member, decide_eq_true excluded, ?_⟩
  unfold CandidateSnapshot.variants at inVariants
  by_cases empty : k.modelVariants.isEmpty
  · exact .inl empty
  · rw [if_neg empty] at inVariants
    obtain ⟨v, hv, rfl⟩ := List.mem_map.mp inVariants
    exact .inr ⟨v, hv, rank⟩

/-! ### A request whose keys do not fail -/

/-- A fallback that waits for a rank-0 attempt has a rank-0 target to begin with. -/
def RankZeroFirst (s : PlanningSnapshot) : Prop :=
  s.modelFallbackTrigger = some .retryExhaustedBeforeOutput →
    ∀ p, s.first ∅ = some p → p.targetRank = 0

/-- No key is left out yet, or the first key of all is. -/
def Led (s : PlanningSnapshot) (left : Finset String) : Prop :=
  left = ∅ ∨ ∃ p, s.first ∅ = some p ∧ p.stationKeyId ∈ left

theorem Led.insert {s : PlanningSnapshot} {left : Finset String} {p : PlannedCandidate}
    (led : Led s left) (first : s.first left = some p) : Led s (insert p.stationKeyId left) := by
  rcases led with rfl | ⟨q, firstOfAll, out⟩
  · exact .inr ⟨p, first, Finset.mem_insert_self _ _⟩
  · exact .inr ⟨q, firstOfAll, Finset.mem_insert_of_mem out⟩

/-- A coordinator that has left out keys and recorded attempts, none of which failed. -/
structure Unhindered (request : ExecuteRequest) (left : Finset String) (attempts : Nat)
    (c : RouteAdmissionCoordinator) : Prop where
  exclusions : c.progress.actualAttemptExclusions = left
  attemptCount : c.progress.attemptCount = attempts
  deadlineMs : c.progress.deadlineMs = request.deadlineMs
  fallbackBlocked : c.fallbackBlocked = none
  rankLimit : c.modelFallbackRankLimit = none
  ranks : attempts = 0 → c.attemptedModelTargetRanks = ∅
  maxAttempts : c.maxAttempts = request.attemptBudget.maxTotalAttempts
  generation : c.durableGeneration = request.initial.planning.durableRevision
  passCapacity : c.passCapacity = .empty

/-- Nothing but the circuits of the keys and the runtime changes of other requests stands in
the way of the request in this turn. -/
structure Steady (request : ExecuteRequest) (keys : List String) (t : Turn) : Prop where
  deadlineLeft : t.deadlineLeft
  inTime : t.nowMs < request.deadlineMs
  reload : ∃ s, t.reload = .ok s ∧ SameConfiguration request.initial s
  capacity : ∀ key ∈ keys, HasCapacity t.active key
  preparation : t.preparation = .ok ()
  boundaryCrossed : t.boundaryCrossed

/-- The replans that passes force on a request until it has taken so many keys, each of which
leaves its view of the runtime behind, and takes one more: other requests have changed the
runtime so often before each pass. -/
def forcedReplans (taken : Nat) (behind : Bool) : List Nat → Nat
  | [] => 0
  | changes :: rest =>
    if behind || changes != 0 then 1 + forcedReplans taken false rest
    else if taken = 0 then 0
    else forcedReplans (taken - 1) true rest

/-- How the coordinator's view of the runtime stands to it between two passes. -/
def Views (behind : Bool) (view runtime : Nat) : Prop :=
  if behind then view < runtime else view = runtime

theorem Views.stale {behind : Bool} {view runtime changes : Nat} (h : Views behind view runtime)
    (forced : (behind || changes != 0) = true) : runtime + changes ≠ view := by
  cases behind with
  | true =>
    have behind : view < runtime := h
    omega
  | false =>
    have changed : changes ≠ 0 := by simpa using forced
    have fresh : view = runtime := h
    omega

/-- A view that forces no replan. -/
theorem Views.fresh {behind : Bool} {view runtime changes : Nat} (h : Views behind view runtime)
    (unforced : ¬(behind || changes != 0) = true) : view = runtime ∧ changes = 0 := by
  cases behind with
  | true => exact absurd rfl unforced
  | false => exact ⟨h, by simpa using unforced⟩

/-- What the coordinator is asked while the configuration and the runtime stand. -/
structure Asked (request : ExecuteRequest) (c : RouteAdmissionCoordinator)
    (input : AdmissionPlanningInput) (s : RouteSnapshots) : Prop where
  asks : AsksWith input s
  inTime : input.nowMs < request.deadlineMs
  current : input.currentRuntimeOverlayRevision = c.runtimeOverlayRevision
  configuration : SameConfiguration request.initial s

namespace Unhindered
variable {request : ExecuteRequest} {left : Finset String} {attempts : Nat}
  {c : RouteAdmissionCoordinator} {input : AdmissionPlanningInput} {s : RouteSnapshots}
  {p : PlannedCandidate}

theorem new (request : ExecuteRequest) (fallbackPolicy : FallbackPolicy) :
    Unhindered request ∅ 0 (.new { request.settings with fallbackPolicy }) :=
  ⟨rfl, rfl, rfl, rfl, rfl, fun _ => rfl, rfl, rfl, rfl⟩

theorem noted (h : Unhindered request left attempts c) (s : PlanningSnapshot) :
    Unhindered request left attempts (c.noted s) :=
  ⟨h.exclusions, h.attemptCount, h.deadlineMs, h.fallbackBlocked, h.rankLimit, h.ranks,
    h.maxAttempts, h.generation, h.passCapacity⟩

theorem runtimeChanged (h : Unhindered request left attempts c) (revision : Nat) :
    Unhindered request left attempts (c.runtimeChanged revision) :=
  ⟨h.exclusions, h.attemptCount, h.deadlineMs, h.fallbackBlocked, h.rankLimit, h.ranks,
    h.maxAttempts, h.generation, rfl⟩

theorem excluded (h : Unhindered request left attempts c) {key : String} (named : key ≠ "") :
    Unhindered request (insert key left) attempts (c.excludeStationKey key) := by
  unfold excludeStationKey
  rw [if_neg named]
  refine ⟨?_, h.attemptCount, h.deadlineMs, h.fallbackBlocked, h.rankLimit, h.ranks,
    h.maxAttempts, h.generation, h.passCapacity⟩
  show insert key c.progress.actualAttemptExclusions = _
  rw [h.exclusions]

/-- A success is an attempt on a key that is left out from then on. -/
theorem succeeded (h : Unhindered request left attempts c)
    (safe : c.fallbackPolicy.retrySafe .succeeded) (few : attempts < 4) (key identity : String) :
    Unhindered request (insert key left) (attempts + 1)
        (c.recordActualTerminalForStationKey key identity .succeeded).1 ∧
      (c.recordActualTerminalForStationKey key identity .succeeded).2 = .ok () := by
  unfold recordActualTerminalForStationKey
  dsimp only
  rw [if_pos safe]
  refine ⟨⟨?_, ?_, h.deadlineMs, h.fallbackBlocked, ?_, nofun, h.maxAttempts, h.generation, rfl⟩,
    rfl⟩
  · show insert key c.progress.actualAttemptExclusions = _
    rw [h.exclusions]
  · show min (c.progress.attemptCount + 1) (2 ^ 32 - 1) = _
    rw [h.attemptCount]
    omega
  · rw [if_neg (by simp)]
    exact h.rankLimit

theorem clear (h : Unhindered request left attempts c) (asked : Asked request c input s)
    (settled : Settled request.initial) : Clear c input s where
  asks := asked.asks
  unblocked := h.fallbackBlocked
  inTime := by
    rw [h.deadlineMs]
    exact asked.inTime
  current := asked.current
  free := asked.configuration.free
  settled := asked.configuration.settled settled
  passCapacity := h.passCapacity
  generation := by
    rw [asked.configuration.durableRevision]
    exact h.generation

theorem first (h : Unhindered request left attempts c) (asked : Asked request c input s) :
    s.planning.first c.progress.actualAttemptExclusions = request.initial.planning.first left := by
  rw [asked.configuration.first, h.exclusions]

theorem budget (h : Unhindered request left attempts c)
    (budget : attempts < request.attemptBudget.maxTotalAttempts) :
    c.progress.attemptCount < c.maxAttempts := by
  rw [h.attemptCount, h.maxAttempts]
  exact budget

/-- The gates are open for the first key that is not left out. -/
theorem mayTake (h : Unhindered request left attempts c) (asked : Asked request c input s)
    (first : request.initial.planning.first left = some p)
    (budget : attempts < request.attemptBudget.maxTotalAttempts)
    (rankZero : RankZeroFirst request.initial.planning) (led : Led request.initial.planning left) :
    MayTake c s.planning p where
  budget := h.budget budget
  rankLimit := by
    rw [h.rankLimit]
    rfl
  fallback := by
    intro retry positive
    rw [asked.configuration.trigger] at retry
    rw [asked.configuration.candidates]
    rcases led with rfl | ⟨q, firstOfAll, out⟩
    · rw [rankZero retry p first] at positive
      cases positive
    · refine rankZero_opens firstOfAll (rankZero retry q firstOfAll) ?_ _
      rw [h.exclusions]
      exact out

theorem next_takes (h : Unhindered request left attempts c) (asked : Asked request c input s)
    (settled : Settled request.initial)
    (first : request.initial.planning.first left = some p)
    (budget : attempts < request.attemptBudget.maxTotalAttempts)
    (rankZero : RankZeroFirst request.initial.planning) (led : Led request.initial.planning left)
    (capacity : HasCapacity input.active p.stationKeyId) :
    ∃ route, c.next input = (c.noted s.planning, .ok (.selected route)) ∧
      route.candidate.stationKeyId = p.stationKeyId :=
  next_takes_first (h.clear asked settled) ((h.first asked).trans first)
    (h.mayTake asked first budget rankZero led) capacity

theorem next_without_key (h : Unhindered request left attempts c)
    (asked : Asked request c input s) (settled : Settled request.initial)
    (some_ : request.initial.planning.candidates ≠ [])
    (none : request.initial.planning.first left = none) :
    c.next input = (c.noted s.planning, .error (failure .noEligible "no_available_key")) := by
  refine next_finds_none (h.clear asked settled) ?_ ((h.first asked).trans none)
  rw [asked.configuration.candidates]
  exact some_

theorem next_at_limit (h : Unhindered request left attempts c) (asked : Asked request c input s)
    (settled : Settled request.initial)
    (first : request.initial.planning.first left = some p)
    (spent : attempts = request.attemptBudget.maxTotalAttempts) :
    c.next input =
      (c.noted s.planning, .error (failure .attemptLimit "attempt_limit_reached")) := by
  refine next_spent (h.clear asked settled) ((h.first asked).trans first) ?_
  rw [h.attemptCount, h.maxAttempts, spent]

theorem next_waits (h : Unhindered request ∅ 0 c) (asked : Asked request c input s)
    (settled : Settled request.initial)
    (first : request.initial.planning.first ∅ = some p)
    (retry : request.initial.planning.modelFallbackTrigger = some .retryExhaustedBeforeOutput)
    (positive : 0 < p.targetRank) :
    c.next input = (c.noted s.planning,
      .error (failure .noEligible "fallback_requires_rank_zero_attempt")) := by
  have shut : retryExhaustedFallbackIsOpen s.planning.candidates c.progress
      c.attemptedModelTargetRanks = false := by
    simp [retryExhaustedFallbackIsOpen, RouteProgress.excludesStationKey, h.ranks rfl, h.exclusions]
  exact next_waits_for_rankZero (h.clear asked settled) ((h.first asked).trans first)
    (h.budget (attemptBudget_valid request).1) h.rankLimit
    (asked.configuration.trigger.trans retry) positive shut

end Unhindered

/-! ### Plain values, for fixed inputs -/

/-- Five keys, alike but for their names. -/
def fiveKeys : RouteSnapshots where
  planning := plainSnapshot none [plainKey "a" [], plainKey "b" [], plainKey "c" [],
    plainKey "d" [], plainKey "e" []]
  targets := ["a", "b", "c", "d", "e"].map fun key => ⟨key, 1, 0, 0⟩
  wellFormed := ⟨by decide +kernel, by decide +kernel⟩
  valid := by decide +kernel
  budget := by decide +kernel

def fiveKeysRequest : ExecuteRequest := ⟨true, 1000, [], fiveKeys⟩

theorem fiveKeys_same : SameConfiguration fiveKeys fiveKeys :=
  ⟨rfl, ⟨fiveKeys.planning.runtime, rfl, rfl⟩, by decide⟩

theorem fiveKeys_settled : Settled fiveKeys := by
  have settled : ∀ c ∈ fiveKeys.planning.candidates,
      ((fiveKeys.targets.reverse.find? fun t => decide (t.stationKeyId = c.stationKeyId)).map
        (·.credentialRevision)) = some c.credentialRevision := by decide +kernel
  exact fun c hc => Option.map_eq_some_iff.mp (settled c hc)

/-- Without other requests every key has capacity. -/
theorem hasCapacity_of_idle (key : String) : HasCapacity (fun _ _ => 0) key := by
  intro request _
  have none : (orderedConstraints request).find? (fun c => decide (0 < c.2) && decide (c.2 ≤ 0)) =
      Option.none := by
    rw [List.find?_eq_none]
    intro c _
    simp only [Bool.and_eq_true, decide_eq_true_eq, not_and]
    omega
  unfold tryAcquire
  rw [none]
  exact ⟨_, rfl⟩

end RelayPool.Routing
