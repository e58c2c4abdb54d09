import RelayPool.Mapping.Resolver

/-! Shadowed rules are dead.

The compiler reports a rule as shadowed when another rule of higher priority
covers its matcher and its conditions. Covering is decided by tables over pairs;
what they say is sound for every request (`matcherCovers_sound`,
`conditionsCovers_sound`). A document with a report is not compiled, so the
result is about the configuration its rules would have: no request is decided by
a shadowed rule, and without the rule every request resolves to the same
disposition and targets (`shadowed_rule_dead`). -/
namespace RelayPool.Mapping
open Ranking

/-! ### Covering is sound -/

theorem matcherCovers_sound {left right : CompiledMatcher} {model : String}
    (covered : matcherCovers left right = true) (matched : right.matchesModel model = true) :
    left.matchesModel model = true := by
  unfold matcherCovers at covered
  split at covered
  · rfl
  · obtain rfl := of_decide_eq_true covered
    exact matched
  · obtain rfl := of_decide_eq_true matched
    exact covered
  · obtain rfl := of_decide_eq_true covered
    exact matched
  all_goals exact absurd covered nofun

theorem requirementCovers_sound {left right : ConditionRequirement} {actual : Bool}
    (covered : requirementCovers left right = true)
    (matched : requirementMatches right actual = true) :
    requirementMatches left actual = true := by
  rcases of_decide_eq_true covered with rfl | rfl
  · rfl
  · exact matched

theorem endpointCovers_sound {left right : Option (List EndpointKind)} {endpoint : EndpointKind}
    (covered : endpointCovers left right = true)
    (matched : right.all (·.contains endpoint) = true) :
    left.all (·.contains endpoint) = true := by
  unfold endpointCovers at covered
  split at covered
  · rfl
  · exact absurd covered nofun
  · have present := List.contains_iff_mem.mp (Option.all_some .. ▸ matched)
    exact List.all_eq_true.mp covered endpoint present

theorem conditionsCovers_sound {left right : RuleConditions} {facts : ModelRequestFacts}
    (covered : conditionsCovers left right = true)
    (matched : conditionsMatch right facts = true) : conditionsMatch left facts = true := by
  simp only [conditionsCovers, conditionsMatch, Bool.and_eq_true] at covered matched ⊢
  obtain ⟨⟨⟨⟨endpoint, stream⟩, tools⟩, vision⟩, reasoning⟩ := covered
  obtain ⟨⟨⟨⟨hasEndpoint, hasStream⟩, hasTools⟩, hasVision⟩, hasReasoning⟩ := matched
  exact ⟨⟨⟨⟨endpointCovers_sound endpoint hasEndpoint, requirementCovers_sound stream hasStream⟩,
    requirementCovers_sound tools hasTools⟩, requirementCovers_sound vision hasVision⟩,
    requirementCovers_sound reasoning hasReasoning⟩

/-- Whatever the lower rule matches the higher one matches. -/
theorem covers_sound {higher lower : CompiledRule} {model : String} {facts : ModelRequestFacts}
    (covered : covers higher lower = true) (matched : ruleMatches lower model facts = true) :
    ruleMatches higher model facts = true := by
  simp only [covers, ruleMatches, Bool.and_eq_true] at covered matched ⊢
  exact ⟨matcherCovers_sound covered.1.2 matched.1, conditionsCovers_sound covered.2 matched.2⟩

/-! ### The order of the rules -/

instance : Std.TransCmp ruleOrder := by
  have descending {β : Type} [Ord β] [Std.TransOrd β] (f : CompiledRule → β) :
      Std.TransCmp fun left right : CompiledRule => compareOn f right left :=
    @Std.TransCmp.opposite _ (compareOn f) _
  have priority := descending (·.priority)
  have specificity := descending (·.matcher.specificity)
  have literals := descending (·.matcher.literalSpecificity)
  unfold ruleOrder
  infer_instance

/-- A covered rule comes after the rule that covers it. -/
theorem covers_before {higher lower : CompiledRule} (covered : covers higher lower = true) :
    ¬ (ruleOrder lower higher).isLE = true := by
  simp only [covers, Bool.and_eq_true, decide_eq_true_eq] at covered
  have less := UInt32.lt_iff_toNat_lt.mp covered.1.1
  have greater : compare higher.priority lower.priority = .gt := by
    show compareOfLessAndEq higher.priority lower.priority = .gt
    unfold compareOfLessAndEq
    rw [if_neg, if_neg]
    · rintro same
      rw [same] at less
      exact lt_irrefl _ less
    · rw [UInt32.lt_iff_toNat_lt]
      omega
  simp only [ruleOrder, compareLex, compareOn, greater]
  exact nofun

/-! ### What the analysis reports -/

theorem mem_validatePair {left right : CompiledRule} {d : ModelMappingDiagnostic}
    (mem : d ∈ validatePair left right) (shadow : d.code = .ruleShadowed) :
    ∃ higher ∈ [left, right], ∃ lower ∈ [left, right],
      covers higher lower = true ∧ d = shadowDiagnostic higher lower := by
  unfold validatePair at mem
  split at mem
  · split at mem
    · obtain rfl := List.mem_singleton.mp mem
      exact absurd shadow nofun
    · exact absurd mem List.not_mem_nil
    · rcases List.mem_append.mp mem with conflict | shadows
      · split at conflict
        · simp only [List.mem_cons, List.not_mem_nil, or_false] at conflict
          rcases conflict with rfl | rfl <;> exact absurd shadow nofun
        · exact absurd conflict List.not_mem_nil
      · split at shadows
        · rename_i covered
          exact ⟨left, by simp, right, by simp, covered, List.mem_singleton.mp shadows⟩
        · split at shadows
          · rename_i covered
            exact ⟨right, by simp, left, by simp, covered, List.mem_singleton.mp shadows⟩
          · exact absurd shadows List.not_mem_nil
  · exact absurd mem List.not_mem_nil

theorem mem_validateOverlaps {rules : List CompiledRule} {d : ModelMappingDiagnostic}
    (mem : d ∈ validateOverlapsAndShadowing rules) (shadow : d.code = .ruleShadowed) :
    ∃ higher ∈ rules, ∃ lower ∈ rules,
      covers higher lower = true ∧ d = shadowDiagnostic higher lower := by
  induction rules with
  | nil => exact absurd mem List.not_mem_nil
  | cons left rest ih =>
    rcases List.mem_append.mp mem with first | later
    · obtain ⟨right, present, reported⟩ := List.mem_flatMap.mp first
      have within : ∀ rule ∈ [left, right], rule ∈ left :: rest := by
        intro rule mem
        simp only [List.mem_cons, List.not_mem_nil, or_false] at mem
        rcases mem with rfl | rfl
        · exact List.mem_cons_self
        · exact List.mem_cons_of_mem _ present
      obtain ⟨higher, memHigher, lower, memLower, found⟩ := mem_validatePair reported shadow
      exact ⟨higher, within _ memHigher, lower, within _ memLower, found⟩
    · obtain ⟨higher, memHigher, lower, memLower, found⟩ := ih later
      exact ⟨higher, List.mem_cons_of_mem _ memHigher, lower, List.mem_cons_of_mem _ memLower,
        found⟩

/-- The other reports are of other kinds. -/
def Unshadowed (reports : List ModelMappingDiagnostic) : Prop :=
  ∀ d ∈ reports, d.code ≠ .ruleShadowed

@[simp] theorem unshadowed_nil : Unshadowed [] := fun _ mem => absurd mem List.not_mem_nil

@[simp] theorem unshadowed_append {left right : List ModelMappingDiagnostic} :
    Unshadowed (left ++ right) ↔ Unshadowed left ∧ Unshadowed right :=
  List.forall_mem_append

@[simp] theorem unshadowed_cons {d : ModelMappingDiagnostic}
    {rest : List ModelMappingDiagnostic} :
    Unshadowed (d :: rest) ↔ d.code ≠ .ruleShadowed ∧ Unshadowed rest :=
  List.forall_mem_cons

@[simp] theorem unshadowed_report {condition : Bool} {code : DiagnosticCode}
    {ruleId : Option String} {path message : String} (other : code ≠ .ruleShadowed) :
    Unshadowed (report condition code ruleId path message) := by
  intro d mem
  obtain ⟨-, rfl⟩ := mem_report.mp mem
  exact other

theorem unshadowed_reportEach {α : Type} {xs : List α}
    {f : List α → Nat → α → List ModelMappingDiagnostic}
    (each : ∀ earlier index x, Unshadowed (f earlier index x)) : Unshadowed (reportEach xs f) := by
  intro d mem
  obtain ⟨index, x, -, reported⟩ := mem_reportEach.mp mem
  exact each _ _ _ d reported

theorem unshadowed_profile (earlier : List ModelProfile) (index : Nat) (profile : ModelProfile) :
    Unshadowed (validateProfile earlier index profile) := by
  unfold validateProfile validateTimestampMetadata
  cases normalizeModelName profile.canonicalModel <;> simp

theorem unshadowed_binding (profiles : List ModelProfile) (earlier : List ModelOfferingBinding)
    (index : Nat) (binding : ModelOfferingBinding) :
    Unshadowed (validateBinding profiles earlier index binding) := by
  unfold validateBinding validateTimestampMetadata
  split <;> simp

theorem unshadowed_targetRef (profiles : List ModelProfile) (ruleId path : String)
    (target : TargetRef) : Unshadowed (validateTargetRef profiles ruleId path target) := by
  unfold validateTargetRef
  split
  · simp
  · split <;> simp

theorem unshadowed_targets (document : ModelMappingDocumentV1) :
    Unshadowed (validateRuleTargets document) := by
  refine unshadowed_reportEach fun _ index rule => ?_
  rw [unshadowed_append]
  refine ⟨unshadowed_report nofun, unshadowed_reportEach fun _ targetIndex target => ?_⟩
  exact unshadowed_append.mpr ⟨unshadowed_targetRef _ _ _ _, unshadowed_report nofun⟩

theorem unshadowed_compileTarget (ruleId path : String) (target : TargetRef) :
    Unshadowed (compileTarget ruleId path target).2 := by
  unfold compileTarget
  split
  · split <;> simp
  · simp

theorem unshadowed_compileAction (ruleId : String) (index : Nat) (action : Action) :
    Unshadowed (compileAction ruleId index action).2 := by
  cases action with
  | mapFixed target => exact unshadowed_compileTarget _ _ _
  | mapFallbackChain targets trigger =>
    intro d mem
    simp only [compileAction, List.flatMap_map] at mem
    obtain ⟨entry, -, reported⟩ := List.mem_flatMap.mp mem
    exact unshadowed_compileTarget _ _ _ d reported
  | preserve => exact unshadowed_nil
  | reject kind message => exact unshadowed_nil

theorem unshadowed_rule (earlier : List ModelMappingRule) (index : Nat)
    (rule : ModelMappingRule) : Unshadowed (validateRule earlier index rule) := by
  have matcher (path : String) : Unshadowed (compileMatcher rule.id path rule.matcher).2 := by
    unfold compileMatcher
    split
    · split <;> simp
    · split <;> simp
    · simp
  have conditions (path : String) :
      Unshadowed (validateConditions rule.id path rule.conditions) := by
    unfold validateConditions
    split <;> simp
  have rejection (path : String) : Unshadowed (validateRejection rule.id path rule.action) := by
    unfold validateRejection
    split <;> simp
  simp [validateRule, compileRule, ruleReports, matcher, conditions, rejection,
    unshadowed_compileAction]

theorem unshadowed_defaults (rules : List CompiledRule) :
    Unshadowed (validateDefaultRules rules) := by
  refine unshadowed_append.mpr ⟨?_, fun d mem => ?_⟩
  · split
    · intro d mem
      obtain ⟨rule, -, rfl⟩ := List.mem_map.mp mem
      exact nofun
    · exact unshadowed_nil
  · obtain ⟨rule, -, reported⟩ := List.mem_flatMap.mp mem
    obtain ⟨-, rfl⟩ := mem_report.mp reported
    exact nofun

/-- A shadow report comes from a pair of compiled rules. -/
theorem shadow_reported {document : ModelMappingDocumentV1} {d : ModelMappingDiagnostic}
    (reported : d ∈ diagnose document) (shadow : d.code = .ruleShadowed) :
    ∃ higher ∈ compiledRules document, ∃ lower ∈ compiledRules document,
      covers higher lower = true ∧ d = shadowDiagnostic higher lower := by
  unfold diagnose at reported
  rcases List.mem_append.mp reported with others | overlaps
  · refine absurd shadow ((?_ : Unshadowed _) d others)
    simp only [unshadowed_append]
    refine ⟨⟨⟨⟨⟨unshadowed_report nofun, unshadowed_report nofun⟩, ?_⟩, unshadowed_targets _⟩,
      unshadowed_reportEach unshadowed_rule⟩, unshadowed_defaults _⟩
    unfold validateProfilesAndBindings
    simp only [unshadowed_append]
    exact ⟨⟨⟨unshadowed_report nofun, unshadowed_report nofun⟩,
      unshadowed_reportEach unshadowed_profile⟩,
      unshadowed_reportEach (unshadowed_binding document.profiles)⟩
  · exact mem_validateOverlaps overlaps shadow

/-! ### Distinct ids -/

/-- A list whose entries are never repeated from the entries before them. -/
theorem nodup_of_fresh {α : Type} {xs : List α}
    (fresh : ∀ index x, xs[index]? = some x → x ∉ xs.take index) : xs.Nodup := by
  rw [List.nodup_iff_getElem?_ne_getElem?]
  intro i j before inside same
  have present := List.getElem?_eq_getElem inside
  refine fresh j xs[j] present (List.mem_of_getElem? (i := i) ?_)
  rw [List.getElem?_take_of_lt before, same, present]

/-- Reports of repeated ids are missing: the ids are distinct. -/
theorem nodup_of_reportEach {α : Type} {xs : List α} {id : α → String}
    (fresh : ∀ index x, xs[index]? = some x → id x ∉ (xs.take index).map id) :
    (xs.map id).Nodup := by
  refine nodup_of_fresh fun index name present => ?_
  rw [List.getElem?_map] at present
  obtain ⟨x, found, rfl⟩ := Option.map_eq_some_iff.mp present
  rw [← List.map_take]
  exact fresh index x found

theorem rule_reported {document : ModelMappingDocumentV1} {index : Nat} {rule : ModelMappingRule}
    (present : document.rules[index]? = some rule) {d : ModelMappingDiagnostic}
    (reported : d ∈ validateRule (document.rules.take index) index rule) :
    d ∈ diagnose document := by
  have each : d ∈ reportEach document.rules validateRule :=
    mem_reportEach.mpr ⟨index, rule, present, reported⟩
  unfold diagnose
  exact List.mem_append_left _ (List.mem_append_left _ (List.mem_append_right _ each))

theorem rule_ids_nodup {document : ModelMappingDocumentV1}
    (onlyShadows : ∀ d ∈ diagnose document, d.code = .ruleShadowed) :
    (document.rules.map (·.id)).Nodup := by
  refine nodup_of_reportEach fun index rule present repeated => ?_
  have reported : ⟨.duplicateRuleId, some rule.id, s!"rules[{index}].id",
      "rule IDs must be unique"⟩ ∈ validateRule (document.rules.take index) index rule := by
    unfold validateRule
    exact List.mem_append_left _ (mem_report.mpr ⟨decide_eq_true repeated, rfl⟩)
  exact absurd (onlyShadows _ (rule_reported present reported)) nofun

theorem compileEnabled_id {source : ModelMappingRule} {rule : CompiledRule}
    (compiled : compileEnabled source = some rule) : rule.id = source.id := by
  unfold compileEnabled at compiled
  split at compiled
  · obtain ⟨-, rfl⟩ := compileRule_some.mp compiled
    rfl
  · exact absurd compiled nofun

theorem compiled_ids_distinct {document : ModelMappingDocumentV1}
    (distinct : (document.rules.map (·.id)).Nodup) :
    (compiledRules document).Pairwise (·.id ≠ ·.id) := by
  rw [compiledRules_eq]
  refine List.Pairwise.filterMap compileEnabled ?_ (List.pairwise_map.mp distinct)
  intro a b other left compiledLeft right compiledRight
  rw [compileEnabled_id compiledLeft, compileEnabled_id compiledRight]
  exact other

theorem compiled_rule_eq {document : ModelMappingDocumentV1}
    (distinct : (document.rules.map (·.id)).Nodup) {a b : CompiledRule}
    (mema : a ∈ compiledRules document) (memb : b ∈ compiledRules document)
    (same : a.id = b.id) : a = b := by
  have nodup : ((compiledRules document).map (·.id)).Nodup :=
    List.pairwise_map.mpr (compiled_ids_distinct distinct)
  exact List.inj_on_of_nodup_map nodup mema memb same

/-! ### The rule that decides -/

section Dead
variable {sha256 : List UInt8 → List UInt8} {document : ModelMappingDocumentV1}
  {revision : UInt64}

/-- A covered rule never decides a request. -/
theorem covered_never_decides {higher lower : CompiledRule}
    (memHigher : higher ∈ compiledRules document) (covered : covers higher lower = true)
    {model : String} {facts : ModelRequestFacts} :
    matchingRule (configuration sha256 document revision) model facts ≠ some lower := by
  intro decides
  have matched : ruleMatches lower model facts = true :=
    List.find?_some (p := fun rule => ruleMatches rule model facts) decides
  rcases first_of_find (sortBy_pairwise ruleOrder _) decides (mem_sortBy.mpr memHigher)
    (covers_sound covered matched) with same | after
  · refine covers_before covered ?_
    rw [← same]
    exact Std.ReflCmp.isLE_rfl
  · exact covers_before covered after

/-- The document without the rule. -/
def deleteRule (document : ModelMappingDocumentV1) (id : String) : ModelMappingDocumentV1 :=
  { document with rules := document.rules.filter (·.id ≠ id) }

def disableRule (document : ModelMappingDocumentV1) (id : String) : ModelMappingDocumentV1 :=
  { document with
    rules := document.rules.map fun rule =>
      if rule.id = id then { rule with enabled := false } else rule }

theorem compileEnabled_filter (source : ModelMappingRule) (id : String) :
    (compileEnabled source).filter (·.id ≠ id) =
      if source.id = id then none else compileEnabled source := by
  cases compiled : compileEnabled source with
  | none => simp
  | some rule =>
    have same := compileEnabled_id compiled
    by_cases here : source.id = id <;> simp [Option.filter, same, here]

theorem compiledRules_delete (id : String) :
    compiledRules (deleteRule document id) = (compiledRules document).filter (·.id ≠ id) := by
  rw [compiledRules_eq, compiledRules_eq, deleteRule, List.filterMap_filter, List.filter_filterMap]
  refine List.filterMap_congr fun source _ => ?_
  rw [compileEnabled_filter]
  by_cases here : source.id = id <;> simp [here]

theorem compiledRules_disable (id : String) :
    compiledRules (disableRule document id) = (compiledRules document).filter (·.id ≠ id) := by
  rw [compiledRules_eq, compiledRules_eq, disableRule, List.filterMap_map, List.filter_filterMap]
  refine List.filterMap_congr fun source _ => ?_
  rw [compileEnabled_filter, Function.comp_apply]
  by_cases here : source.id = id
  · simp [here, compileEnabled]
  · rw [if_neg here, if_neg here]

/-- Without a rule that decides nothing every request is decided as before. -/
theorem matchingRule_without {weaker : ModelMappingDocumentV1} {id : String}
    (without : compiledRules weaker = (compiledRules document).filter (·.id ≠ id))
    {model : String} {facts : ModelRequestFacts}
    (idle : ∀ rule, matchingRule (configuration sha256 document revision) model facts = some rule →
      rule.id ≠ id) :
    matchingRule (configuration sha256 weaker revision) model facts =
      matchingRule (configuration sha256 document revision) model facts := by
  show (sortBy ruleOrder (compiledRules weaker)).find? _ = _
  rw [without, sortBy_filter]
  exact find_filter_of_kept fun rule found => decide_eq_true (idle rule found)

end Dead

/-! ### What is resolved without the rule -/

/-- The disposition and the targets of a plan, or its error. -/
def outcome (resolved : Except ModelMappingResolutionError ResolvedModelPlan) :
    Except ModelMappingResolutionError (Disposition × List ResolvedTarget) :=
  resolved.map fun plan => (plan.disposition, plan.targetModels)

section Outcome
variable {left right : CompiledModelMappingConfiguration}

theorem resolveTarget_congr (profiles : left.profiles = right.profiles)
    (bindings : left.bindings = right.bindings) (context : Option CandidateResolutionContext) (target : TargetRef) :
    resolveTarget left context target = resolveTarget right context target := by
  cases target with
  | literal model => rfl
  | modelProfile id => simp only [resolveTarget, resolveProfile, profiles, bindings]

theorem resolveTargets_congr (profiles : left.profiles = right.profiles)
    (bindings : left.bindings = right.bindings) (context : Option CandidateResolutionContext) (rank : Nat)
    (targets : List TargetRef) :
    resolveTargets left context rank targets = resolveTargets right context rank targets := by
  induction targets generalizing rank with
  | nil => rfl
  | cons target rest ih =>
    rw [resolveTargets, resolveTargets, resolveTarget_congr profiles bindings, ih]

theorem outcome_resolveAction (profiles : left.profiles = right.profiles)
    (bindings : left.bindings = right.bindings) (model : String) (rule : CompiledRule)
    (context : Option CandidateResolutionContext) :
    outcome (resolveAction left model rule context) =
      outcome (resolveAction right model rule context) := by
  unfold resolveAction
  cases rule.action with
  | mapFixed target =>
    dsimp only
    rw [resolveTarget_congr profiles bindings]
    cases resolveTarget right context target <;> rfl
  | mapFallbackChain targets trigger =>
    have same := resolveTargets_congr profiles bindings context 0 targets
    dsimp only
    rw [same]
    cases resolveTargets right context 0 targets with
    | error e => rfl
    | ok resolved => cases resolved <;> rfl
  | preserve => rfl
  | reject kind message => rfl

theorem outcome_resolve (profiles : left.profiles = right.profiles)
    (bindings : left.bindings = right.bindings) (policy : left.policy = right.policy)
    (decided : ∀ model facts, matchingRule left model facts = matchingRule right model facts)
    (facts : ModelRequestFacts) :
    outcome (resolve left facts) = outcome (resolve right facts) := by
  unfold resolve
  split
  · rfl
  · split
    · rfl
    · split
      · rfl
      · rw [decided]
        split
        · exact outcome_resolveAction profiles bindings _ _ _
        · unfold resolveUnmatched
          rw [policy]
          split <;> rfl

theorem outcome_resolveForCandidate (profiles : left.profiles = right.profiles)
    (bindings : left.bindings = right.bindings) (policy : left.policy = right.policy)
    (decided : ∀ model facts, matchingRule left model facts = matchingRule right model facts)
    (facts : ModelRequestFacts) (context : CandidateResolutionContext) :
    outcome (resolveForCandidate left facts context) =
      outcome (resolveForCandidate right facts context) := by
  have whole := outcome_resolve profiles bindings policy decided facts
  unfold resolveForCandidate
  split
  · exact whole
  · split
    · rfl
    · rw [decided]
      split
      · exact outcome_resolveAction profiles bindings _ _ _
      · exact whole

end Outcome

/-- In a document with no reports but those of shadowed rules, no request is decided by a rule
reported as shadowed, and disabling or deleting the rule changes no disposition and no target. -/
theorem shadowed_rule_dead (sha256 : List UInt8 → List UInt8) {document : ModelMappingDocumentV1}
    (revision : UInt64) (onlyShadows : ∀ d ∈ diagnose document, d.code = .ruleShadowed)
    {d : ModelMappingDiagnostic} (reported : d ∈ diagnose document) {id : String}
    (named : d.ruleId = some id) :
    (∀ facts rule, matchedRule (configuration sha256 document revision) facts = some rule →
      rule.id ≠ id) ∧
    ∀ weaker, weaker = disableRule document id ∨ weaker = deleteRule document id →
      ∀ facts,
        outcome (resolve (configuration sha256 weaker revision) facts) =
          outcome (resolve (configuration sha256 document revision) facts) ∧
        ∀ context,
          outcome (resolveForCandidate (configuration sha256 weaker revision) facts context) =
            outcome (resolveForCandidate (configuration sha256 document revision) facts context) := by
  obtain ⟨higher, memHigher, lower, memLower, covered, rfl⟩ :=
    shadow_reported reported (onlyShadows d reported)
  obtain rfl : lower.id = id := Option.some.inj named
  have distinct := rule_ids_nodup onlyShadows
  have idle (model : String) (facts : ModelRequestFacts) (rule : CompiledRule)
      (decides : matchingRule (configuration sha256 document revision) model facts = some rule) :
      rule.id ≠ lower.id := by
    intro same
    have mem := mem_sortBy.mp (List.mem_of_find?_eq_some decides)
    rw [compiled_rule_eq distinct mem memLower same] at decides
    exact covered_never_decides memHigher covered decides
  refine ⟨fun facts rule decides => ?_, fun weaker without facts => ?_⟩
  · unfold matchedRule at decides
    split at decides
    · exact absurd decides nofun
    · obtain ⟨model, -, found⟩ := Option.bind_eq_some_iff.mp decides
      exact idle model facts rule found
  · have rules : compiledRules weaker =
        (compiledRules document).filter (·.id ≠ lower.id) := by
      rcases without with rfl | rfl
      · exact compiledRules_disable lower.id
      · exact compiledRules_delete lower.id
    have decided (model : String) (facts : ModelRequestFacts) :
        matchingRule (configuration sha256 weaker revision) model facts =
          matchingRule (configuration sha256 document revision) model facts :=
      matchingRule_without rules (idle model facts)
    have same : weaker.profiles = document.profiles ∧ weaker.bindings = document.bindings ∧
        weaker.policy = document.policy := by
      rcases without with rfl | rfl <;> exact ⟨rfl, rfl, rfl⟩
    exact ⟨outcome_resolve same.1 same.2.1 same.2.2 decided facts,
      outcome_resolveForCandidate same.1 same.2.1 same.2.2 decided facts⟩

def sampleShadow : ModelMappingDocumentV1 :=
  sampleDocument [sampleRule "wide" 20 (.glob "gpt-*") .preserve,
    sampleRule "dead" 10 (.exact "gpt-5") (.mapFixed (.literal "other"))]

theorem shadowed_rule_dead_sample :
    (∀ facts rule, matchedRule (configuration id sampleShadow 7) facts = some rule →
      rule.id ≠ "dead") ∧
    ∀ weaker, weaker = disableRule sampleShadow "dead" ∨ weaker = deleteRule sampleShadow "dead" →
      ∀ facts,
        outcome (resolve (configuration id weaker 7) facts) =
          outcome (resolve (configuration id sampleShadow 7) facts) ∧
        ∀ context,
          outcome (resolveForCandidate (configuration id weaker 7) facts context) =
            outcome (resolveForCandidate (configuration id sampleShadow 7) facts context) :=
  have reported : ⟨.ruleShadowed, some "dead", "priority",
      "rule is completely shadowed by higher-priority rule wide"⟩ ∈ diagnose sampleShadow := by
    decide +kernel
  shadowed_rule_dead id 7 (by decide +kernel) reported rfl

end RelayPool.Mapping
