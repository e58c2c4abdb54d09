import RelayPool.Routing.Canonical
import RelayPool.Routing.Coordinator

/-! What the coordinator's operations can do.

`next` leaves alone what the recordings keep (`next_kept`). When it selects, the
selected target is of the best rank of a plan made without the excluded keys, and
the gates let it through (`next_selected`). -/
namespace RelayPool.Routing
open Fallible Ranking

namespace RouteAdmissionCoordinator

/-- The part of the state that only the recordings change. -/
structure Kept (c c' : RouteAdmissionCoordinator) : Prop where
  exclusions : c'.progress.actualAttemptExclusions = c.progress.actualAttemptExclusions
  attemptCount : c'.progress.attemptCount = c.progress.attemptCount
  deadlineMs : c'.progress.deadlineMs = c.progress.deadlineMs
  fallbackPolicy : c'.fallbackPolicy = c.fallbackPolicy
  rankLimit : c'.modelFallbackRankLimit = c.modelFallbackRankLimit
  fallbackBlocked : c'.fallbackBlocked = c.fallbackBlocked
  maxAttempts : c'.maxAttempts = c.maxAttempts
  attemptedRanks : c'.attemptedModelTargetRanks = c.attemptedModelTargetRanks

theorem Kept.refl (c : RouteAdmissionCoordinator) : Kept c c :=
  ⟨rfl, rfl, rfl, rfl, rfl, rfl, rfl, rfl⟩

theorem Kept.trans {c c' c'' : RouteAdmissionCoordinator} (h : Kept c c') (h' : Kept c' c'') :
    Kept c c'' :=
  ⟨h'.exclusions.trans h.exclusions, h'.attemptCount.trans h.attemptCount,
    h'.deadlineMs.trans h.deadlineMs, h'.fallbackPolicy.trans h.fallbackPolicy,
    h'.rankLimit.trans h.rankLimit, h'.fallbackBlocked.trans h.fallbackBlocked,
    h'.maxAttempts.trans h.maxAttempts, h'.attemptedRanks.trans h.attemptedRanks⟩

/-! ### Scanning the targets of a pass -/

theorem waitOrFail_state (c : RouteAdmissionCoordinator) (input : AdmissionPlanningInput) :
    (c.waitOrFail input).1 = c := by
  unfold waitOrFail
  cases buildWaitPlan c.passCapacity input.nowMs c.progress.deadlineMs
      input.maxWaitersPerConstraint with
  | error _ => rfl
  | ok constraint =>
    dsimp only
    split <;> rfl

theorem waitOrFail_not_selected (c : RouteAdmissionCoordinator) (input : AdmissionPlanningInput)
    (route : SelectedRoute) : (c.waitOrFail input).2 ≠ .ok (.selected route) := by
  unfold waitOrFail
  cases buildWaitPlan c.passCapacity input.nowMs c.progress.deadlineMs
      input.maxWaitersPerConstraint with
  | error _ => nofun
  | ok constraint =>
    dsimp only
    split <;> nofun

theorem rebuildOrFailConfig_kept (c : RouteAdmissionCoordinator)
    (profile : CandidateAdmissionProfile) : Kept c (c.rebuildOrFailConfig profile).1 := by
  unfold rebuildOrFailConfig
  split
  · exact Kept.refl c
  · exact ⟨rfl, rfl, rfl, rfl, rfl, rfl, rfl, rfl⟩

theorem tryCandidates_kept (input : AdmissionPlanningInput) (plan : RoutePlan)
    (l : List PlannedCandidate) (c : RouteAdmissionCoordinator) :
    Kept c (tryCandidates input plan c l).1 := by
  induction l generalizing c with
  | nil =>
    rw [tryCandidates, waitOrFail_state]
    exact Kept.refl c
  | cons planned rest ih =>
    rw [tryCandidates]
    cases input.executionCandidates.find? fun e =>
        decide (e.routingIdentity = planned.routingIdentity) with
    | none => exact Kept.refl c
    | some base =>
      dsimp only
      cases mapGet input.profiles (selectedCandidate plan planned base).stationKeyId with
      | none => exact Kept.refl c
      | some profile =>
        dsimp only
        split
        · exact ih c
        split
        · exact rebuildOrFailConfig_kept c profile
        split
        · exact Kept.refl c
        · rename_i miss _
          have same : Kept c { c with
              passCapacity := c.passCapacity.recordMiss (missObservation miss) } :=
            ⟨rfl, rfl, rfl, rfl, rfl, rfl, rfl, rfl⟩
          exact same.trans (ih _)

/-- A selection takes one of the targets scanned, through an execution candidate of
its identity, and leaves at most capacity misses behind. -/
structure Takes (input : AdmissionPlanningInput) (plan : RoutePlan) (l : List PlannedCandidate)
    (c c' : RouteAdmissionCoordinator) (route : SelectedRoute) : Prop where
  target : ∃ planned ∈ l, ∃ base ∈ input.executionCandidates,
    base.routingIdentity = planned.routingIdentity ∧
    route.candidate = selectedCandidate plan planned base
  state : ∃ passCapacity, c' = { c with passCapacity }

theorem tryCandidates_selected {input : AdmissionPlanningInput} {plan : RoutePlan}
    {l : List PlannedCandidate} {c : RouteAdmissionCoordinator} {route : SelectedRoute}
    (h : (tryCandidates input plan c l).2 = .ok (.selected route)) :
    Takes input plan l c (tryCandidates input plan c l).1 route := by
  induction l generalizing c with
  | nil => exact absurd h (waitOrFail_not_selected c input route)
  | cons planned rest ih =>
    rw [tryCandidates] at h ⊢
    cases found : input.executionCandidates.find? fun e =>
        decide (e.routingIdentity = planned.routingIdentity) with
    | none => rw [found] at h; cases h
    | some base =>
      rw [found] at h
      dsimp only at h ⊢
      cases profile? : mapGet input.profiles (selectedCandidate plan planned base).stationKeyId with
      | none => rw [profile?] at h; cases h
      | some profile =>
        rw [profile?] at h
        dsimp only at h ⊢
        -- a target found later in the scan is a target of the scan
        have later : ∀ {c' : RouteAdmissionCoordinator},
            (∃ passCapacity, c' = { c with passCapacity }) →
            (tryCandidates input plan c' rest).2 = .ok (.selected route) →
            Takes input plan (planned :: rest) c (tryCandidates input plan c' rest).1 route := by
          intro c' ⟨passCapacity, eq⟩ h
          obtain ⟨⟨planned', hp, taken⟩, passCapacity', state⟩ := ih h
          exact ⟨⟨planned', List.mem_cons_of_mem _ hp, taken⟩, passCapacity', by rw [state, eq]⟩
        by_cases blocked : c.capacityStateBlocksCandidate (selectedCandidate plan planned base) profile
        · rw [if_pos blocked] at h ⊢
          exact later ⟨_, rfl⟩ h
        rw [if_neg blocked] at h ⊢
        by_cases invalid : c.profileInvalidatesCandidate (selectedCandidate plan planned base) profile
        · rw [if_pos invalid] at h
          unfold rebuildOrFailConfig at h
          split at h <;> cases h
        rw [if_neg invalid] at h ⊢
        cases acquired : tryAcquire
            (input.active (profile.capacityRequest (selectedCandidate plan planned base)))
            (profile.capacityRequest (selectedCandidate plan planned base)) with
        | error miss =>
          rw [acquired] at h
          exact later ⟨_, rfl⟩ h
        | ok lease =>
          rw [acquired] at h
          cases h
          exact ⟨⟨planned, List.mem_cons_self, base, List.mem_of_find?_eq_some found,
            by simpa using List.find?_some found, rfl⟩, _, rfl⟩

/-! ### One admission -/

theorem bestTargetRank_le {plan : RoutePlan} {p : PlannedCandidate} (hp : p ∈ plan.candidates) :
    bestTargetRank plan ≤ p.targetRank := by
  unfold bestTargetRank bestRank
  cases h : (plan.candidates.map (·.targetRank)).min? with
  | none =>
    rw [List.min?_eq_none_iff, List.map_eq_nil_iff] at h
    rw [h] at hp
    cases hp
  | some rank => exact (List.min?_eq_some_iff.mp h).2 _ (List.mem_map_of_mem hp)

theorem mem_orderedPlannedCandidates {plan : RoutePlan} {p : PlannedCandidate}
    (h : p ∈ orderedPlannedCandidates plan) : p ∈ plan.candidates := by
  unfold orderedPlannedCandidates at h
  cases tier : (plan.candidates.map (·.tier)).min? with
  | none => rw [tier] at h; cases h
  | some tier' =>
    rw [tier] at h
    simp only [List.mem_append, Option.mem_toList, List.mem_filter] at h
    rcases h with (h | h) | h
    · exact List.mem_of_find?_eq_some h
    · exact h.1
    · exact h.1

/-- What the gates let through. -/
structure GateOpen (c : RouteAdmissionCoordinator) (s : PlanningSnapshot) (plan : RoutePlan) :
    Prop where
  budget : c.progress.attemptCount < c.maxAttempts
  rankLimit : modelFallbackRankAllowed c.modelFallbackRankLimit (bestTargetRank plan)
  fallback : s.modelFallbackTrigger = some .retryExhaustedBeforeOutput →
    0 < bestTargetRank plan →
    retryExhaustedFallbackIsOpen s.candidates c.progress c.attemptedModelTargetRanks

theorem gate_ok {c : RouteAdmissionCoordinator} {s : PlanningSnapshot} {plan : RoutePlan}
    (trigger : c.modelFallbackTrigger = s.modelFallbackTrigger) (h : c.gate s plan = .ok ()) :
    GateOpen c s plan := by
  simp only [gate, bind_ok, ite_ok, throw_ok, pure_ok, false_and, exists_false, and_false,
    false_or, and_true] at h
  obtain ⟨-, budget, limit, fallback⟩ := h
  refine ⟨by omega, by simpa using limit, fun retry positive => ?_⟩
  cases open_ : retryExhaustedFallbackIsOpen s.candidates c.progress c.attemptedModelTargetRanks with
  | true => rfl
  | false => exact absurd ⟨trigger.trans retry, positive, by rw [open_]; rfl⟩ fallback

/-- The targets of a plan that may be taken: those of its best rank, in order. -/
def offered (plan : RoutePlan) : List PlannedCandidate :=
  (orderedPlannedCandidates plan).filter fun p => decide (p.targetRank = bestTargetRank plan)

theorem mem_offered {plan : RoutePlan} {p : PlannedCandidate} (h : p ∈ offered plan) :
    p ∈ plan.candidates ∧ p.targetRank = bestTargetRank plan := by
  obtain ⟨hp, rank⟩ := List.mem_filter.mp h
  exact ⟨mem_orderedPlannedCandidates hp, of_decide_eq_true rank⟩

/-- The targets of a plan that may be taken begin with the first of its order. -/
theorem offered_head {s : PlanningSnapshot} {p : PlannedCandidate}
    (head : s.ordered.head? = some p) :
    bestTargetRank (s.planWith p) = p.targetRank ∧
      ∃ rest, offered (s.planWith p) = p :: rest := by
  cases ordered : s.ordered with
  | nil =>
    rw [ordered] at head
    cases head
  | cons q l =>
    rw [ordered] at head
    cases head
    have sorted := ordered_pairwise s
    rw [ordered] at sorted
    have best : bestTargetRank (s.planWith p) = p.targetRank := by
      have min : bestRank s.ordered = some p.targetRank := by
        rw [bestRank, List.min?_eq_some_iff, ordered]
        refine ⟨List.mem_cons_self, fun rank hrank => ?_⟩
        obtain ⟨q, hq, rfl⟩ := List.mem_map.mp hrank
        exact (head_le_of_sorted Precedes.refl sorted rfl hq).rank_le
      show (bestRank s.ordered).getD 0 = _
      rw [min]
      rfl
    refine ⟨best, ?_⟩
    have found : (s.planWith p).candidates.find? (fun q => decide (q.routingIdentity =
        (s.planWith p).dispatch.selectedId)) = some p := by
      show s.ordered.find? _ = some p
      rw [ordered]
      exact List.find?_cons_of_pos (decide_eq_true rfl)
    unfold offered orderedPlannedCandidates
    cases tier : ((s.planWith p).candidates.map (·.tier)).min? with
    | none =>
      rw [List.min?_eq_none_iff, List.map_eq_nil_iff] at tier
      rw [show s.ordered = [] from tier] at ordered
      cases ordered
    | some tier =>
      dsimp only
      rw [found, Option.toList_some, List.append_assoc, List.singleton_append,
        List.filter_cons_of_pos (by rw [best]; exact decide_eq_true rfl)]
      exact ⟨_, rfl⟩

theorem planAndAdmit_selected {c : RouteAdmissionCoordinator} {input : AdmissionPlanningInput}
    {route : SelectedRoute}
    (trigger : c.modelFallbackTrigger = input.planningSnapshot.modelFallbackTrigger)
    (h : (c.planAndAdmit input).2 = .ok (.selected route)) :
    ∃ plan, planSnapshot (c.workingSnapshot input.planningSnapshot) input.rootSeed
        (c.progress.ordinal + 1) = .ok plan ∧ GateOpen c input.planningSnapshot plan ∧
      Takes input plan (offered plan) c (c.planAndAdmit input).1 route := by
  unfold planAndAdmit at h ⊢
  cases planned : planSnapshot (c.workingSnapshot input.planningSnapshot) input.rootSeed
      (c.progress.ordinal + 1) with
  | error error => rw [planned] at h; cases h
  | ok plan =>
    rw [planned] at h
    dsimp only at h ⊢
    cases gate : c.gate input.planningSnapshot plan with
    | error failure => rw [gate] at h; cases h
    | ok u =>
      rw [gate] at h
      exact ⟨plan, rfl, gate_ok trigger gate, tryCandidates_selected h⟩

/-- The request may plan: it is not blocked, in time, up to date and has keys. -/
structure MayPlan (c : RouteAdmissionCoordinator) (input : AdmissionPlanningInput) : Prop where
  unblocked : c.fallbackBlocked = none
  inTime : input.nowMs < c.progress.deadlineMs
  current : input.currentRuntimeOverlayRevision = c.runtimeOverlayRevision
  populated : candidatePopulationFailure input.planningSnapshot = none

/-- A request that may plan does, and another selects nothing. -/
theorem next_of_mayPlan {c : RouteAdmissionCoordinator} {input : AdmissionPlanningInput}
    (may : MayPlan c input) :
    c.next input = (c.noted input.planningSnapshot).planAndAdmit input := by
  unfold next
  rw [may.unblocked, if_neg (by have := may.inTime; omega), if_neg (not_not.mpr may.current)]
  simp only [may.populated]

theorem mayPlan_of_selected {c : RouteAdmissionCoordinator} {input : AdmissionPlanningInput}
    {route : SelectedRoute} (h : (c.next input).2 = .ok (.selected route)) :
    MayPlan c input := by
  unfold next at h
  cases unblocked : c.fallbackBlocked with
  | some kind => rw [unblocked] at h; cases h
  | none =>
    rw [unblocked] at h
    dsimp only at h
    by_cases late : c.progress.deadlineMs ≤ input.nowMs
    · rw [if_pos late] at h
      cases h
    rw [if_neg late] at h
    by_cases changed : input.currentRuntimeOverlayRevision ≠ c.runtimeOverlayRevision
    · rw [if_pos changed] at h
      split at h <;> cases h
    rw [if_neg changed] at h
    cases populated : candidatePopulationFailure input.planningSnapshot with
    | some detail => rw [populated] at h; cases h
    | none => exact ⟨unblocked, by omega, not_not.mp changed, populated⟩

/-- What a selection says. -/
structure Selects (c : RouteAdmissionCoordinator) (input : AdmissionPlanningInput)
    (plan : RoutePlan) (c' : RouteAdmissionCoordinator) (route : SelectedRoute) : Prop where
  may : MayPlan c input
  planned : planSnapshot (c.workingSnapshot input.planningSnapshot) input.rootSeed
    (c.progress.ordinal + 1) = .ok plan
  gate : GateOpen c input.planningSnapshot plan
  takes : Takes input plan (offered plan) (c.noted input.planningSnapshot) c' route

theorem next_selected {c : RouteAdmissionCoordinator} {input : AdmissionPlanningInput}
    {route : SelectedRoute} (h : (c.next input).2 = .ok (.selected route)) :
    ∃ plan, Selects c input plan (c.next input).1 route := by
  have may := mayPlan_of_selected h
  rw [next_of_mayPlan may] at h ⊢
  obtain ⟨plan, planned, gate, takes⟩ := planAndAdmit_selected rfl h
  exact ⟨plan, may, planned, ⟨gate.budget, gate.rankLimit, gate.fallback⟩, takes⟩

/-- What a target of the order says about the candidate it was planned from. -/
structure Stands (s : PlanningSnapshot) (c : CandidateSnapshot)
    (variant : Option CandidateModelVariant) (p : PlannedCandidate) : Prop where
  member : (c, variant) ∈ s.expansion
  eligible : c.eligible s.policy
  stationKeyId : p.stationKeyId = c.stationKeyId
  routingIdentity : p.routingIdentity = c.routingIdentity variant
  targetRank : p.targetRank = (variant.map (·.targetRank)).getD 0
  variant : p.variant = variant

theorem ordered_stands {s : PlanningSnapshot} {p : PlannedCandidate} (hp : p ∈ s.ordered) :
    ∃ c variant, Stands s c variant p := by
  obtain ⟨q, hq, same⟩ := List.mem_map.mp (((ordered_map_perm s
    (f := fun p => (p.stationKeyId, p.routingIdentity, p.variant, p.targetRank))
    fun _ _ _ _ => rfl).mem_iff).mp (List.mem_map_of_mem hp))
  obtain ⟨c, variant, member, fields⟩ := mem_planned hq
  simp only [Prod.mk.injEq] at same
  obtain ⟨key, identity, hv, rank⟩ := same
  exact ⟨c, variant, member, fields.eligible, key ▸ fields.stationKeyId,
    identity ▸ fields.routingIdentity, rank ▸ fields.targetRank, hv ▸ fields.variant⟩

/-- A planned target's rank is that of its variant. -/
theorem ordered_targetRank {s : PlanningSnapshot} {p : PlannedCandidate} (hp : p ∈ s.ordered) :
    p.targetRank = (p.variant.map (·.targetRank)).getD 0 := by
  obtain ⟨c, variant, stands⟩ := ordered_stands hp
  rw [stands.targetRank, stands.variant]

/-- A selected target is of the best rank of its plan. -/
theorem Selects.targetRank {c c' : RouteAdmissionCoordinator} {input : AdmissionPlanningInput}
    {plan : RoutePlan} {route : SelectedRoute} (h : Selects c input plan c' route) :
    route.candidate.targetRank = bestTargetRank plan := by
  obtain ⟨planned, hp, base, -, -, taken⟩ := h.takes.target
  obtain ⟨member, rank⟩ := mem_offered hp
  obtain ⟨-, -, first, -, rfl⟩ := planSnapshot_ok.mp h.planned
  rw [taken, ← rank]
  exact (ordered_targetRank member).symm

/-- Some key that is not left out has an eligible target of this rank or a lower one. -/
def Offers (c : RouteAdmissionCoordinator) (s : PlanningSnapshot) (rank : Nat) : Prop :=
  ∃ candidate ∈ s.candidates, c.progress.excludesStationKey candidate.stationKeyId = false ∧
    candidate.eligible s.policy ∧
    ∃ variant ∈ candidate.variants, (variant.map (·.targetRank)).getD 0 ≤ rank

theorem mem_workingSnapshot {c : RouteAdmissionCoordinator} {s : PlanningSnapshot}
    {candidate : CandidateSnapshot} : candidate ∈ (c.workingSnapshot s).candidates ↔
      candidate ∈ s.candidates ∧ c.progress.excludesStationKey candidate.stationKeyId = false := by
  simp [workingSnapshot]

/-- A plan is made of a best rank that is offered. -/
theorem Selects.rank_le_of_offers {c c' : RouteAdmissionCoordinator}
    {input : AdmissionPlanningInput} {plan : RoutePlan} {route : SelectedRoute} {rank : Nat}
    (h : Selects c input plan c' route) (offers : Offers c input.planningSnapshot rank) :
    route.candidate.targetRank ≤ rank := by
  obtain ⟨candidate, hc, inPlay, eligible, variant, hv, le⟩ := offers
  obtain ⟨valid, -, first, -, eq⟩ := planSnapshot_ok.mp h.planned
  have member : (candidate, variant) ∈ (c.workingSnapshot input.planningSnapshot).expansion :=
    mem_expansion.mpr ⟨mem_workingSnapshot.mpr ⟨hc, inPlay⟩, hv⟩
  obtain ⟨p, hp, same⟩ := List.mem_map.mp (((ordered_eligible valid).mem_iff).mpr
    (List.mem_map.mpr ⟨_, List.mem_filter.mpr ⟨member, eligible⟩, rfl⟩))
  rw [h.targetRank]
  calc bestTargetRank plan
      ≤ p.targetRank := bestTargetRank_le (by rw [eq]; exact hp)
    _ = (p.variant.map (·.targetRank)).getD 0 := ordered_targetRank hp
    _ = (variant.map (·.targetRank)).getD 0 := by rw [show p.variant = variant from
          congrArg Prod.snd same]
    _ ≤ rank := le

/-- The execution candidates of a snapshot carry its routing identities. -/
theorem executionCandidate_routingIdentity (c : CandidateSnapshot)
    (variant : Option CandidateModelVariant) :
    (executionCandidate c variant).routingIdentity = c.routingIdentity variant := by
  cases variant <;> rfl

/-- A selected target is a target of the snapshot, of a key that is not left out. -/
structure Picked (c : RouteAdmissionCoordinator) (s : PlanningSnapshot)
    (candidate : CandidateSnapshot) (variant : Option CandidateModelVariant)
    (route : SelectedRoute) : Prop where
  member : (candidate, variant) ∈ s.expansion
  inPlay : candidate.stationKeyId ∉ c.progress.actualAttemptExclusions
  stationKeyId : route.candidate.stationKeyId = candidate.stationKeyId
  routingIdentity : route.candidate.routingIdentity = candidate.routingIdentity variant
  targetRank : route.candidate.targetRank = (variant.map (·.targetRank)).getD 0

theorem Selects.picked {c c' : RouteAdmissionCoordinator} {input : AdmissionPlanningInput}
    {plan : RoutePlan} {route : SelectedRoute} (h : Selects c input plan c' route)
    (targets : List ExecutionTargetRef) (wf : input.planningSnapshot.WellFormed)
    (execution : input.executionCandidates =
      (loadOperationalRouteSnapshot targets input.planningSnapshot).candidates) :
    ∃ candidate variant, Picked c input.planningSnapshot candidate variant route := by
  obtain ⟨planned, hp, base, hb, sameIdentity, taken⟩ := h.takes.target
  obtain ⟨-, -, first, -, eq⟩ := planSnapshot_ok.mp h.planned
  have ordered : planned ∈ (c.workingSnapshot input.planningSnapshot).ordered := by
    have := (mem_offered hp).1
    rw [eq] at this
    exact this
  obtain ⟨candidate, variant, stands⟩ := ordered_stands ordered
  obtain ⟨hc, hv⟩ := mem_expansion.mp stands.member
  obtain ⟨hc, inPlay⟩ := mem_workingSnapshot.mp hc
  have member : (candidate, variant) ∈ input.planningSnapshot.expansion :=
    mem_expansion.mpr ⟨hc, hv⟩
  -- the execution candidate found by the identity is that of the planned target
  rw [execution] at hb
  obtain ⟨entry, he, rfl⟩ := List.mem_map.mp hb
  rw [executionCandidate_routingIdentity, stands.routingIdentity] at sameIdentity
  have same : entry = (candidate, variant) :=
    List.inj_on_of_nodup_map wf.identities he member sameIdentity
  subst same
  refine ⟨candidate, variant, member, of_decide_eq_false inPlay, ?_, ?_, ?_⟩
  · rw [taken]
    rfl
  · rw [taken, ← executionCandidate_routingIdentity]
    show (planned.variant.map _).getD _ = (variant.map _).getD _
    rw [stands.variant]
    rfl
  · rw [taken]
    show (planned.variant.map _).getD 0 = _
    rw [stands.variant]

/-- A map has the entry of a key that was inserted once. -/
theorem mapGet_of_mem {β : Type} {entries : List (String × β)}
    (nodup : (entries.map (·.1)).Nodup) {key : String} {value : β}
    (member : (key, value) ∈ entries) : mapGet entries key = some value := by
  have nodup' : (entries.reverse.map (·.1)).Nodup := by
    rw [List.map_reverse, List.nodup_reverse]
    exact nodup
  have member' : (key, value) ∈ entries.reverse := List.mem_reverse.mpr member
  unfold mapGet
  generalize entries.reverse = l at nodup' member'
  induction l with
  | nil => cases member'
  | cons entry rest ih =>
    rw [List.map_cons, List.nodup_cons] at nodup'
    rcases List.mem_cons.mp member' with rfl | later
    · simp
    · have other : (key == entry.1) = false := by
        rw [beq_eq_false_iff_ne]
        rintro rfl
        exact nodup'.1 (List.mem_map.mpr ⟨_, later, rfl⟩)
      rw [List.lookup_cons, other]
      exact ih nodup'.2 later

theorem targetRanks_eq (s : PlanningSnapshot) :
    targetRanks s = s.expansion.map fun e =>
      (e.1.routingIdentity e.2, (e.2.map (·.targetRank)).getD 0) := by
  unfold targetRanks PlanningSnapshot.expansion
  rw [List.map_flatMap]
  refine congrArg (s.candidates.flatMap ·) (funext fun c => ?_)
  unfold CandidateSnapshot.variants
  split
  · rfl
  · rw [List.map_map, List.map_map]
    rfl

/-- The rank noted for a target of the snapshot is the target's own. -/
theorem mapGet_targetRanks {s : PlanningSnapshot} (wf : s.WellFormed) {c : CandidateSnapshot}
    {variant : Option CandidateModelVariant} (member : (c, variant) ∈ s.expansion) :
    mapGet (targetRanks s) (c.routingIdentity variant) =
      some ((variant.map (·.targetRank)).getD 0) := by
  refine mapGet_of_mem ?_ ?_
  · rw [targetRanks_eq, List.map_map]
    exact wf.identities
  · rw [targetRanks_eq]
    exact List.mem_map_of_mem member

theorem next_kept (c : RouteAdmissionCoordinator) (input : AdmissionPlanningInput) :
    Kept c (c.next input).1 := by
  have planAndAdmit_kept : ∀ c : RouteAdmissionCoordinator, Kept c (c.planAndAdmit input).1 := by
    intro c
    unfold planAndAdmit
    cases planSnapshot (c.workingSnapshot input.planningSnapshot) input.rootSeed
        (c.progress.ordinal + 1) with
    | error error => exact Kept.refl c
    | ok plan =>
      dsimp only
      cases c.gate input.planningSnapshot plan with
      | error failure => exact Kept.refl c
      | ok u => exact tryCandidates_kept input plan _ c
  have same : ∀ c' : RouteAdmissionCoordinator, Kept c c' → Kept c (c'.planAndAdmit input).1 :=
    fun c' kept => kept.trans (planAndAdmit_kept c')
  unfold next
  cases c.fallbackBlocked with
  | some kind => exact Kept.refl c
  | none =>
    dsimp only
    split
    · exact Kept.refl c
    split
    · split <;> exact ⟨rfl, rfl, rfl, rfl, rfl, rfl, rfl, rfl⟩
    cases candidatePopulationFailure input.planningSnapshot with
    | some detail => exact ⟨rfl, rfl, rfl, rfl, rfl, rfl, rfl, rfl⟩
    | none => exact same _ ⟨rfl, rfl, rfl, rfl, rfl, rfl, rfl, rfl⟩

end RouteAdmissionCoordinator

end RelayPool.Routing
