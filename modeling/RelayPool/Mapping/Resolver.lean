import RelayPool.Mapping.Compiler

/-! Resolving the model of a request.

The first compiled rule that matches decides. Without a candidate a model
profile cannot be resolved; with one it resolves to a binding or to the profile's
default. Targets that are literal models resolve alike on both paths
(`resolve_for_candidate_eq`), and what a plan offers to a candidate is each model
once, under the lowest rank it has (`candidateVariants_spec`). -/
namespace RelayPool.Mapping

inductive Disposition where
  | bypass
  | preserve
  | mapped
  | reject
deriving DecidableEq, Repr

inductive TargetPolicy where
  | none
  | preserve
  | fixed
  | fallback
deriving DecidableEq, Repr

inductive ResolutionReason where
  | unmatchedPreserve
  | ruleMatch
  | profileKeyBinding
  | profileStationBinding
  | profileDefault
deriving DecidableEq, Repr

structure ResolvedTarget where
  targetRank : UInt16
  routeModel : String
  resolutionReason : ResolutionReason
  bindingRevision : Option UInt64
deriving DecidableEq

structure CandidateResolutionContext where
  stationKeyId : String
  stationId : String
  endpoint : EndpointKind
  credentialRevision : UInt64
  endpointRevision : UInt64
deriving DecidableEq

structure CandidateModelVariant where
  stationKeyId : String
  stationId : String
  upstreamModel : String
  targetRank : UInt16
  bindingRevision : Option UInt64
  modelResolutionFence : String
  endpoint : EndpointKind
  credentialRevision : UInt64
  endpointRevision : UInt64
deriving DecidableEq

structure DecisionEvidence where
  code : String
  ruleId : Option String
deriving DecidableEq

structure ResolvedModelPlan where
  requestedModel : Option String
  disposition : Disposition
  matchedRuleId : Option String
  mappingRevision : UInt64
  modelResolutionFence : String
  targetPolicy : TargetPolicy
  fallbackTrigger : Option FallbackTrigger
  targetModels : List ResolvedTarget
  rejectionKind : Option RejectionKind
  rejectionMessage : Option String
  decisionEvidence : List DecisionEvidence
deriving DecidableEq

inductive ModelMappingResolutionError where
  | invalidModelName
  | targetRequiresCandidateContext
  | profileNotFound
  | profileHasNoOffering
  | noResolvedTargets
deriving DecidableEq, Repr

/-! ### Matching -/

def requirementMatches (requirement : ConditionRequirement) (actual : Bool) : Bool :=
  match requirement with
  | .any => true
  | .required => actual
  | .forbidden => !actual

def CompiledMatcher.matchesModel (matcher : CompiledMatcher) (model : String) : Bool :=
  match matcher with
  | .exact expected => expected = model
  | .glob pattern => pattern.matches model
  | .default => true

def conditionsMatch (conditions : RuleConditions) (facts : ModelRequestFacts) : Bool :=
  conditions.endpointKinds.all (·.contains facts.endpoint) &&
    requirementMatches conditions.stream facts.stream &&
    requirementMatches conditions.tools facts.tools &&
    requirementMatches conditions.vision facts.vision &&
    requirementMatches conditions.reasoning facts.reasoning

def ruleMatches (rule : CompiledRule) (model : String) (facts : ModelRequestFacts) : Bool :=
  rule.matcher.matchesModel model && conditionsMatch rule.conditions facts

/-! ### Targets -/

/-- The enabled binding of the profile that has the scope asked for. -/
def findBinding (bindings : List ModelOfferingBinding) (profileId : String)
    (scope : ModelOfferingBinding → Option String) (id : String) : Option ModelOfferingBinding :=
  bindings.find? fun binding =>
    binding.enabled ∧ binding.modelProfileId = profileId ∧ scope binding = some id

/-- A model name of the document, which has to be valid. -/
def offering (model : String) (revision : UInt64) (reason : ResolutionReason) :
    Except ModelMappingResolutionError (String × Option UInt64 × ResolutionReason) :=
  match normalizeModelName model with
  | some model => .ok (model, some revision, reason)
  | none => .error .profileHasNoOffering

def resolveProfile (configuration : CompiledModelMappingConfiguration)
    (context : Option CandidateResolutionContext) (profile : ModelProfile) :
    Except ModelMappingResolutionError (String × Option UInt64 × ResolutionReason) :=
  if profile.status = .archived then .error .profileHasNoOffering
  else
    match context with
    | none => .error .targetRequiresCandidateContext
    | some context =>
      match findBinding configuration.bindings profile.id (·.stationKeyId) context.stationKeyId with
      | some binding => offering binding.upstreamModel binding.revision .profileKeyBinding
      | none =>
        match findBinding configuration.bindings profile.id (·.stationId) context.stationId with
        | some binding => offering binding.upstreamModel binding.revision .profileStationBinding
        | none =>
          match profile.defaultUpstreamModel with
          | some model => offering model profile.revision .profileDefault
          | none => .error .profileHasNoOffering

def resolveTarget (configuration : CompiledModelMappingConfiguration)
    (context : Option CandidateResolutionContext) : TargetRef →
    Except ModelMappingResolutionError (String × Option UInt64 × ResolutionReason)
  | .literal upstreamModel => .ok (upstreamModel, none, .ruleMatch)
  | .modelProfile modelProfileId =>
    match configuration.profiles.find? (·.id = modelProfileId) with
    | none => .error .profileNotFound
    | some profile => resolveProfile configuration context profile

/-- The rank, an index, is kept in sixteen bits. -/
def resolvedTarget (rank : Nat) (resolved : String × Option UInt64 × ResolutionReason) :
    ResolvedTarget :=
  { targetRank := .ofNat rank, routeModel := resolved.1, resolutionReason := resolved.2.2,
    bindingRevision := resolved.2.1 }

/-- The targets of a chain from a rank on; a profile without an offering is left out. -/
def resolveTargets (configuration : CompiledModelMappingConfiguration)
    (context : Option CandidateResolutionContext) : Nat → List TargetRef →
    Except ModelMappingResolutionError (List ResolvedTarget)
  | _, [] => .ok []
  | rank, target :: rest =>
    match resolveTarget configuration context target with
    | .ok resolved => do
      let later ← resolveTargets configuration context (rank + 1) rest
      return resolvedTarget rank resolved :: later
    | .error .profileHasNoOffering => resolveTargets configuration context (rank + 1) rest
    | .error error => .error error

/-- A plan that says nothing yet. -/
def basePlan (configuration : CompiledModelMappingConfiguration) (requestedModel : Option String)
    (disposition : Disposition) (matchedRuleId : Option String) (targetPolicy : TargetPolicy)
    (targetModels : List ResolvedTarget) (decisionEvidence : List DecisionEvidence) :
    ResolvedModelPlan :=
  { requestedModel, disposition, matchedRuleId
    mappingRevision := configuration.mappingRevision
    modelResolutionFence := configuration.modelResolutionFence
    targetPolicy
    fallbackTrigger := none
    targetModels
    rejectionKind := none
    rejectionMessage := none
    decisionEvidence }

def resolveAction (configuration : CompiledModelMappingConfiguration) (requestedModel : String)
    (rule : CompiledRule) (context : Option CandidateResolutionContext) :
    Except ModelMappingResolutionError ResolvedModelPlan :=
  let plan (disposition : Disposition) (policy : TargetPolicy) (targets : List ResolvedTarget) :=
    basePlan configuration (some requestedModel) disposition (some rule.id) policy targets
      [⟨"model_mapping_rule_match", some rule.id⟩]
  match rule.action with
  | .mapFixed target => do
    let resolved ← resolveTarget configuration context target
    return plan .mapped .fixed [resolvedTarget 0 resolved]
  | .mapFallbackChain targets fallbackTrigger => do
    let resolved ← resolveTargets configuration context 0 targets
    if resolved = [] then throw .noResolvedTargets
    return { plan .mapped .fallback resolved with fallbackTrigger := some fallbackTrigger }
  | .preserve => .ok (plan .preserve .preserve [⟨0, requestedModel, .ruleMatch, none⟩])
  | .reject rejectionKind message =>
    .ok { plan .reject .none [] with
      rejectionKind := some rejectionKind, rejectionMessage := message }

/-! ### Requests -/

def bypassPlan (configuration : CompiledModelMappingConfiguration) (facts : ModelRequestFacts)
    (code : String) : ResolvedModelPlan :=
  basePlan configuration (facts.requestedModel.bind normalizeModelName) .bypass none .none []
    [⟨code, none⟩]

/-- What the policy says of a model no rule matches. -/
def resolveUnmatched (configuration : CompiledModelMappingConfiguration) (model : String) :
    ResolvedModelPlan :=
  match configuration.policy.unmatchedModelBehavior with
  | .preserve =>
    basePlan configuration (some model) .preserve none .preserve
      [⟨0, model, .unmatchedPreserve, none⟩] [⟨"model_mapping_unmatched_preserve", none⟩]
  | .reject =>
    { basePlan configuration (some model) .reject none .none []
        [⟨"model_mapping_unmatched_reject", none⟩] with
      rejectionKind := some .unsupportedModel }

def matchingRule (configuration : CompiledModelMappingConfiguration) (model : String)
    (facts : ModelRequestFacts) : Option CompiledRule :=
  configuration.rules.find? fun rule => ruleMatches rule model facts

def resolve (configuration : CompiledModelMappingConfiguration) (facts : ModelRequestFacts) :
    Except ModelMappingResolutionError ResolvedModelPlan :=
  if facts.endpoint.isMappingBypass then
    .ok (bypassPlan configuration facts "model_mapping_bypass_endpoint")
  else
    match facts.requestedModel with
    | none => .ok (bypassPlan configuration facts "model_mapping_bypass_missing_model")
    | some requestedModel =>
      match normalizeModelName requestedModel with
      | none => .error .invalidModelName
      | some model =>
        match matchingRule configuration model facts with
        | some rule => resolveAction configuration model rule none
        | none => .ok (resolveUnmatched configuration model)

def resolveForCandidate (configuration : CompiledModelMappingConfiguration)
    (facts : ModelRequestFacts) (context : CandidateResolutionContext) :
    Except ModelMappingResolutionError ResolvedModelPlan :=
  if facts.endpoint.isMappingBypass ∨ facts.requestedModel.isNone then
    resolve configuration facts
  else
    match facts.requestedModel.bind normalizeModelName with
    | none => .error .invalidModelName
    | some model =>
      match matchingRule configuration model facts with
      | some rule => resolveAction configuration model rule (some context)
      | none => resolve configuration facts

/-- The rule that decides a request, if one does. -/
def matchedRule (configuration : CompiledModelMappingConfiguration) (facts : ModelRequestFacts) :
    Option CompiledRule :=
  if facts.endpoint.isMappingBypass then none
  else (facts.requestedModel.bind normalizeModelName).bind fun model =>
    matchingRule configuration model facts

/-! ### What is offered to a candidate -/

def candidateVariant (plan : ResolvedModelPlan) (context : CandidateResolutionContext)
    (target : ResolvedTarget) : CandidateModelVariant :=
  { stationKeyId := context.stationKeyId
    stationId := context.stationId
    upstreamModel := target.routeModel
    targetRank := target.targetRank
    bindingRevision := target.bindingRevision
    modelResolutionFence := plan.modelResolutionFence
    endpoint := context.endpoint
    credentialRevision := context.credentialRevision
    endpointRevision := context.endpointRevision }

/-- The two are the same model at the same key. -/
def CandidateModelVariant.same (existing variant : CandidateModelVariant) : Bool :=
  existing.stationKeyId = variant.stationKeyId ∧
    existing.upstreamModel = variant.upstreamModel ∧ existing.endpoint = variant.endpoint ∧
    existing.credentialRevision = variant.credentialRevision ∧
    existing.endpointRevision = variant.endpointRevision ∧
    existing.modelResolutionFence = variant.modelResolutionFence

def addVariant (variants : List CandidateModelVariant) (variant : CandidateModelVariant) :
    List CandidateModelVariant :=
  if variants.any (·.same variant) then variants else variants ++ [variant]

def candidateVariants (plan : ResolvedModelPlan) (context : CandidateResolutionContext) :
    List CandidateModelVariant :=
  (plan.targetModels.map (candidateVariant plan context)).foldl addVariant []

/-! ### Literal targets resolve alike on both paths -/

def TargetRef.isModelProfile : TargetRef → Bool
  | .literal _ => false
  | .modelProfile _ => true

section Literal
variable (configuration : CompiledModelMappingConfiguration)
  (left right : Option CandidateResolutionContext)

theorem resolveTarget_literal {target : TargetRef} (literal : target.isModelProfile = false) :
    resolveTarget configuration left target = resolveTarget configuration right target := by
  cases target with
  | literal model => rfl
  | modelProfile id => exact absurd literal nofun

theorem resolveTargets_literal {targets : List TargetRef}
    (literal : ∀ target ∈ targets, target.isModelProfile = false) (rank : Nat) :
    resolveTargets configuration left rank targets =
      resolveTargets configuration right rank targets := by
  induction targets generalizing rank with
  | nil => rfl
  | cons target rest ih =>
    have here := resolveTarget_literal configuration left right (literal target List.mem_cons_self)
    have later := ih (fun other mem => literal other (List.mem_cons_of_mem _ mem)) (rank + 1)
    rw [resolveTargets, resolveTargets, here, later]

theorem resolveAction_literal {model : String} {rule : CompiledRule}
    (literal : ∀ target ∈ rule.action.targets, target.isModelProfile = false) :
    resolveAction configuration model rule left = resolveAction configuration model rule right := by
  unfold resolveAction
  cases action : rule.action with
  | mapFixed target =>
    rw [action] at literal
    dsimp only
    rw [resolveTarget_literal configuration left right (literal target List.mem_cons_self)]
  | mapFallbackChain targets trigger =>
    rw [action] at literal
    have same : resolveTargets configuration left 0 targets =
        resolveTargets configuration right 0 targets :=
      resolveTargets_literal _ _ _ literal 0
    dsimp only
    rw [same]
  | preserve => rfl
  | reject kind message => rfl

end Literal

/-- The two paths agree unless the rule that decides has a profile among its targets. -/
theorem resolveForCandidate_literal {configuration : CompiledModelMappingConfiguration}
    {facts : ModelRequestFacts} (context : CandidateResolutionContext)
    (literal : ∀ rule, matchedRule configuration facts = some rule →
      ∀ target ∈ rule.action.targets, target.isModelProfile = false) :
    resolveForCandidate configuration facts context = resolve configuration facts := by
  unfold resolveForCandidate
  split
  · rfl
  · rename_i mapped
    obtain ⟨inference, named⟩ := not_or.mp mapped
    unfold resolve
    rw [matchedRule, if_neg inference] at literal
    rw [if_neg inference]
    cases given : facts.requestedModel with
    | none => exact absurd (by rw [given]; rfl) named
    | some requested =>
      rw [given, Option.bind_some] at literal
      rw [Option.bind_some]
      cases normalized : normalizeModelName requested with
      | none => simp only [normalized]
      | some model =>
        rw [normalized, Option.bind_some] at literal
        cases found : matchingRule configuration model facts with
        | none => simp only [normalized, found]
        | some rule =>
          simp only [normalized, found]
          exact resolveAction_literal _ _ _ (literal rule found)

/-! ### The ranks of a plan -/

theorem resolveTargets_ranks {configuration : CompiledModelMappingConfiguration}
    {context : Option CandidateResolutionContext} {targets : List TargetRef} {rank : Nat}
    {resolved : List ResolvedTarget} (short : rank + targets.length ≤ 2 ^ 16)
    (ok : resolveTargets configuration context rank targets = .ok resolved) :
    resolved.Pairwise (·.targetRank < ·.targetRank) ∧
      ∀ target ∈ resolved, rank ≤ target.targetRank.toNat := by
  induction targets generalizing rank resolved with
  | nil =>
    obtain rfl := Except.ok.inj ok
    exact ⟨.nil, nofun⟩
  | cons target rest ih =>
    rw [List.length_cons] at short
    unfold resolveTargets at ok
    split at ok
    · rename_i found _
      obtain ⟨later, rest_ok, same⟩ := Fallible.bind_ok.mp ok
      obtain rfl := Except.ok.inj same
      obtain ⟨ascending, above⟩ := ih (by omega) rest_ok
      have here : (resolvedTarget rank found).targetRank.toNat = rank :=
        UInt16.toNat_ofNat_of_lt' (show rank < 2 ^ 16 by omega)
      refine ⟨List.pairwise_cons.mpr ⟨fun other mem => ?_, ascending⟩, fun other mem => ?_⟩
      · rw [UInt16.lt_iff_toNat_lt, here]
        exact above other mem
      · rcases List.mem_cons.mp mem with rfl | mem
        · exact here.ge
        · exact (Nat.le_succ rank).trans (above other mem)
    · obtain ⟨ascending, above⟩ := ih (by omega) ok
      exact ⟨ascending, fun other mem => (Nat.le_succ rank).trans (above other mem)⟩
    · exact absurd ok nofun

/-- The ranks of a plan ascend as long as its action has no more targets than there are ranks. -/
def ResolvedModelPlan.Ranked (plan : ResolvedModelPlan) : Prop :=
  plan.targetModels.Pairwise (·.targetRank < ·.targetRank)

theorem resolveAction_ranked {configuration : CompiledModelMappingConfiguration} {model : String}
    {rule : CompiledRule} {context : Option CandidateResolutionContext} {plan : ResolvedModelPlan}
    (short : rule.action.targets.length ≤ 2 ^ 16)
    (resolved : resolveAction configuration model rule context = .ok plan) : plan.Ranked := by
  unfold resolveAction at resolved
  cases action : rule.action with
  | mapFixed target =>
    rw [action] at resolved
    obtain ⟨found, -, same⟩ := Fallible.bind_ok.mp resolved
    obtain rfl := Except.ok.inj same
    exact List.pairwise_singleton ..
  | mapFallbackChain targets trigger =>
    rw [action] at resolved short
    obtain ⟨found, targets_ok, rest⟩ := Fallible.bind_ok.mp resolved
    obtain ⟨-, same⟩ := Fallible.guard_ok.mp rest
    obtain rfl := Except.ok.inj same
    refine (resolveTargets_ranks ?_ targets_ok).1
    rw [Nat.zero_add]
    exact short
  | preserve =>
    rw [action] at resolved
    obtain rfl := Except.ok.inj resolved
    exact List.pairwise_singleton ..
  | reject kind message =>
    rw [action] at resolved
    obtain rfl := Except.ok.inj resolved
    exact .nil

theorem resolveUnmatched_ranked (configuration : CompiledModelMappingConfiguration)
    (model : String) : (resolveUnmatched configuration model).Ranked := by
  unfold resolveUnmatched
  split
  · exact List.pairwise_singleton ..
  · exact .nil

theorem resolve_ranked {configuration : CompiledModelMappingConfiguration}
    {facts : ModelRequestFacts} {plan : ResolvedModelPlan}
    (short : ∀ rule ∈ configuration.rules, rule.action.targets.length ≤ 2 ^ 16)
    (resolved : resolve configuration facts = .ok plan) : plan.Ranked := by
  unfold resolve at resolved
  split at resolved
  · obtain rfl := Except.ok.inj resolved
    exact .nil
  · split at resolved
    · obtain rfl := Except.ok.inj resolved
      exact .nil
    · split at resolved
      · exact absurd resolved nofun
      · split at resolved
        · rename_i found
          exact resolveAction_ranked (short _ (List.mem_of_find?_eq_some found)) resolved
        · obtain rfl := Except.ok.inj resolved
          exact resolveUnmatched_ranked ..

/-! ### Each model once -/

/-- What the variants say of the targets looked at so far. -/
structure Offers (plan : ResolvedModelPlan) (context : CandidateResolutionContext)
    (targets : List ResolvedTarget) (variants : List CandidateModelVariant) : Prop where
  distinct : (variants.map (·.upstreamModel)).Nodup
  ascending : variants.Pairwise (·.targetRank < ·.targetRank)
  offered : ∀ variant ∈ variants, ∃ target ∈ targets, variant = candidateVariant plan context target
  complete : ∀ target ∈ targets, ∃ variant ∈ variants,
    variant.upstreamModel = target.routeModel ∧ variant.targetRank ≤ target.targetRank

section Variants
variable {plan : ResolvedModelPlan} {context : CandidateResolutionContext}
  {targets : List ResolvedTarget} {variants : List CandidateModelVariant}

theorem same_candidateVariant (target other : ResolvedTarget) :
    (candidateVariant plan context target).same (candidateVariant plan context other) = true ↔
      target.routeModel = other.routeModel := by
  simp [CandidateModelVariant.same, candidateVariant]

theorem Offers.add (offers : Offers plan context targets variants) {target : ResolvedTarget}
    (last : ∀ other ∈ targets, other.targetRank < target.targetRank) :
    Offers plan context (targets ++ [target])
      (addVariant variants (candidateVariant plan context target)) := by
  have offered : ∀ variant ∈ variants, ∃ other ∈ targets ++ [target],
      variant = candidateVariant plan context other := fun variant mem =>
    have ⟨other, present, same⟩ := offers.offered variant mem
    ⟨other, List.mem_append_left _ present, same⟩
  unfold addVariant
  split
  · rename_i known
    obtain ⟨variant, mem, same⟩ := List.any_eq_true.mp known
    obtain ⟨first, present, rfl⟩ := offers.offered variant mem
    refine { offers with offered, complete := fun other mem_other => ?_ }
    rcases List.mem_append.mp mem_other with old | new
    · exact offers.complete other old
    · obtain rfl := List.mem_singleton.mp new
      exact ⟨_, mem, (same_candidateVariant first other).mp same,
        UInt16.le_of_lt (last first present)⟩
  · rename_i fresh
    have new : target.routeModel ∉ variants.map (·.upstreamModel) := fun mem => by
      obtain ⟨variant, present, same⟩ := List.mem_map.mp mem
      obtain ⟨first, -, rfl⟩ := offers.offered variant present
      exact fresh (List.any_eq_true.mpr ⟨_, present, (same_candidateVariant first target).mpr same⟩)
    refine ⟨?_, ?_, ?_, ?_⟩
    · rw [List.map_append, List.nodup_append]
      refine ⟨offers.distinct, List.nodup_singleton _, fun model mem other single => ?_⟩
      obtain rfl := List.mem_singleton.mp single
      rintro rfl
      exact new mem
    · refine List.pairwise_append.mpr ⟨offers.ascending, List.pairwise_singleton .., ?_⟩
      intro variant mem other single
      obtain rfl := List.mem_singleton.mp single
      obtain ⟨first, present, rfl⟩ := offers.offered variant mem
      exact last first present
    · intro variant mem
      rcases List.mem_append.mp mem with old | single
      · exact offered variant old
      · obtain rfl := List.mem_singleton.mp single
        exact ⟨target, List.mem_append_right _ (List.mem_singleton_self target), rfl⟩
    · intro other mem
      rcases List.mem_append.mp mem with old | single
      · obtain ⟨variant, present, rest⟩ := offers.complete other old
        exact ⟨variant, List.mem_append_left _ present, rest⟩
      · obtain rfl := List.mem_singleton.mp single
        exact ⟨_, List.mem_append_right _ (List.mem_singleton_self _), rfl, UInt16.le_refl _⟩

theorem Offers.add_all {more : List ResolvedTarget} (offers : Offers plan context targets variants)
    (ranked : (targets ++ more).Pairwise (·.targetRank < ·.targetRank)) :
    Offers plan context (targets ++ more)
      ((more.map (candidateVariant plan context)).foldl addVariant variants) := by
  induction more generalizing targets variants with
  | nil =>
    rw [List.append_nil]
    exact offers
  | cons target more ih =>
    have last : ∀ other ∈ targets, other.targetRank < target.targetRank := fun other mem =>
      (List.pairwise_append.mp ranked).2.2 other mem target List.mem_cons_self
    rw [List.append_cons] at ranked ⊢
    exact ih (offers.add last) ranked

theorem candidateVariants_offers (ranked : plan.Ranked) :
    Offers plan context plan.targetModels (candidateVariants plan context) :=
  have none : Offers plan context [] [] := ⟨.nil, .nil, nofun, nofun⟩
  none.add_all ranked

end Variants

/-- The variants of a plan: each of its models once, under the lowest rank it has, in the order
of the ranks. -/
structure EachModelOnce (plan : ResolvedModelPlan) (variants : List CandidateModelVariant) :
    Prop where
  distinct : (variants.map (·.upstreamModel)).Nodup
  ascending : variants.Pairwise (·.targetRank < ·.targetRank)
  models : ∀ model, model ∈ variants.map (·.upstreamModel) ↔
    model ∈ plan.targetModels.map (·.routeModel)
  attained : ∀ variant ∈ variants, ∃ target ∈ plan.targetModels,
    target.routeModel = variant.upstreamModel ∧ target.targetRank = variant.targetRank
  least : ∀ variant ∈ variants, ∀ target ∈ plan.targetModels,
    target.routeModel = variant.upstreamModel → variant.targetRank ≤ target.targetRank

theorem Offers.eachModelOnce {plan : ResolvedModelPlan} {context : CandidateResolutionContext}
    {variants : List CandidateModelVariant}
    (offers : Offers plan context plan.targetModels variants) : EachModelOnce plan variants where
  distinct := offers.distinct
  ascending := offers.ascending
  models := by
    intro model
    constructor
    · intro mem
      obtain ⟨variant, present, rfl⟩ := List.mem_map.mp mem
      obtain ⟨target, planned, rfl⟩ := offers.offered variant present
      exact List.mem_map_of_mem planned
    · intro mem
      obtain ⟨target, present, rfl⟩ := List.mem_map.mp mem
      obtain ⟨variant, offered, same, -⟩ := offers.complete target present
      exact List.mem_map.mpr ⟨variant, offered, same⟩
  attained := by
    intro variant mem
    obtain ⟨target, present, rfl⟩ := offers.offered variant mem
    exact ⟨target, present, rfl, rfl⟩
  least := by
    intro variant mem target present same
    obtain ⟨other, offered, model, le⟩ := offers.complete target present
    obtain rfl : other = variant :=
      List.inj_on_of_nodup_map offers.distinct offered mem (model.trans same)
    exact le

/-- Candidate by candidate, a request whose rule names literal models resolves as it does without
a candidate, and the candidate is offered each model of the plan once. -/
theorem candidate_resolution {sha256 : List UInt8 → List UInt8}
    {document : ModelMappingDocumentV1} {revision : UInt64}
    {configuration : CompiledModelMappingConfiguration}
    (compiled : compileAtRevision sha256 document revision = .ok configuration)
    (facts : ModelRequestFacts) (context : CandidateResolutionContext)
    (literal : ∀ rule, matchedRule configuration facts = some rule →
      ∀ target ∈ rule.action.targets, target.isModelProfile = false) :
    resolveForCandidate configuration facts context = resolve configuration facts ∧
      ∀ plan, resolveForCandidate configuration facts context = .ok plan →
        EachModelOnce plan (candidateVariants plan context) := by
  have same := resolveForCandidate_literal context literal
  refine ⟨same, fun plan resolved => ?_⟩
  obtain ⟨clean, rfl⟩ := (compileAtRevision_ok sha256).mp compiled
  rw [same] at resolved
  refine (candidateVariants_offers (resolve_ranked (fun rule mem => ?_) resolved)).eachModelOnce
  exact (compiled_targets_short clean (Ranking.mem_sortBy.mp mem)).trans (by decide)

def sampleRule (id : String) (priority : UInt32) (matcher : Matcher) (action : Action) :
    ModelMappingRule :=
  { id, priority, enabled := true, matcher
    conditions := ⟨none, .any, .any, .any, .any⟩
    action, note := none, revision := 1 }

def sampleDocument (rules : List ModelMappingRule) : ModelMappingDocumentV1 :=
  { formatVersion := 1, baseRevision := 7, policy := ⟨.preserve⟩, rules, profiles := [],
    bindings := [] }

/-- A chain whose second target is the first one with white space around it. -/
def sampleChain : ModelMappingDocumentV1 :=
  sampleDocument [sampleRule "chain" 10 .default
    (.mapFallbackChain [.literal "a", .literal " a ", .literal "b"] .noEligibleTarget)]

def sampleFacts : ModelRequestFacts := ⟨some "gpt-5", .responses, false, false, false, false⟩

def sampleContext : CandidateResolutionContext := ⟨"key", "station", .responses, 1, 1⟩

theorem candidate_resolution_sample :
    resolveForCandidate (configuration id sampleChain 7) sampleFacts sampleContext =
        resolve (configuration id sampleChain 7) sampleFacts ∧
      ∀ plan, resolveForCandidate (configuration id sampleChain 7) sampleFacts sampleContext =
          .ok plan → EachModelOnce plan (candidateVariants plan sampleContext) :=
  candidate_resolution ((compileAtRevision_ok id).mpr ⟨by decide +kernel, rfl⟩) sampleFacts
    sampleContext (by decide +kernel)

end RelayPool.Mapping
