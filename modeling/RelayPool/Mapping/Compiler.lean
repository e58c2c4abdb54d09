import RelayPool.Bytes
import RelayPool.Mapping.Overlap
import RelayPool.Mapping.Validation
import RelayPool.Ranking

/-! Compiling a model mapping document.

`diagnose` collects what the compiler reports, in the order in which it does. A
document without a report compiles to its enabled rules in `ruleOrder`, its
profiles and its bindings, under a fence that hashes the ids and revisions of all
of them. The hash function is the parameter `sha256`. -/
namespace RelayPool.Mapping
open Bytes Protocol Ranking

inductive CompiledMatcher where
  | exact (model : String)
  | glob (pattern : CompiledGlob)
  | default
deriving DecidableEq

structure CompiledRule where
  id : String
  priority : UInt32
  matcher : CompiledMatcher
  conditions : RuleConditions
  action : Action
  revision : UInt64
deriving DecidableEq

structure CompiledModelMappingConfiguration where
  mappingRevision : UInt64
  modelResolutionFence : String
  policy : ModelMappingPolicy
  rules : List CompiledRule
  profiles : List ModelProfile
  bindings : List ModelOfferingBinding
deriving DecidableEq

structure CompileError where
  diagnostics : List ModelMappingDiagnostic
deriving DecidableEq

/-! ### One rule -/

def compileMatcher (ruleId path : String) :
    Matcher → CompiledMatcher × List ModelMappingDiagnostic
  | .exact model =>
    match normalizeModelName model with
    | some model => (.exact model, [])
    | none => (.default, [⟨.invalidModelName, some ruleId, s!"{path}.model",
        s!"model must be 1..={maxModelNameBytes} bytes with no control characters"⟩])
  | .glob pattern =>
    match CompiledGlob.compile pattern with
    | .ok glob => (.glob glob, [])
    | .error error =>
      (.default, [⟨.invalidGlob, some ruleId, s!"{path}.pattern", error.message⟩])
  | .default => (.default, [])

def validateConditions (ruleId path : String) (conditions : RuleConditions) :
    List ModelMappingDiagnostic :=
  match conditions.endpointKinds with
  | none => []
  | some endpoints =>
    report (endpoints = []) .invalidCondition (some ruleId) path
      "endpointKinds cannot be empty" ++
    report (¬ endpoints.Nodup) .invalidCondition (some ruleId) path
      "endpointKinds cannot contain duplicates" ++
    report (endpoints.any EndpointKind.isMappingBypass) .invalidCondition (some ruleId) path
      "mapping conditions may only reference inference endpoints"

def compileTarget (ruleId path : String) : TargetRef → TargetRef × List ModelMappingDiagnostic
  | .literal upstreamModel =>
    match normalizeModelName upstreamModel with
    | some model => (.literal model, [])
    | none => (.literal upstreamModel, [⟨.emptyTarget, some ruleId, s!"{path}.upstreamModel",
        "literal target must be a non-empty valid model name"⟩])
  | .modelProfile modelProfileId => (.modelProfile modelProfileId, [])

def compileAction (ruleId : String) (index : Nat) :
    Action → Action × List ModelMappingDiagnostic
  | .mapFixed target =>
    let (target, reports) := compileTarget ruleId s!"rules[{index}].action.target" target
    (.mapFixed target, reports)
  | .mapFallbackChain targets fallbackTrigger =>
    let compiled := targets.zipIdx.map fun (target, targetIndex) =>
      compileTarget ruleId s!"rules[{index}].action.targets[{targetIndex}]" target
    (.mapFallbackChain (compiled.map Prod.fst) fallbackTrigger, compiled.flatMap Prod.snd)
  | .preserve => (.preserve, [])
  | .reject rejectionKind message => (.reject rejectionKind message, [])

def validateRejection (ruleId path : String) : Action → List ModelMappingDiagnostic
  | .reject _ message =>
    report (message.any fun message =>
        maxRejectionMessageBytes < message.utf8ByteSize ∨ message.toList.any isForbidden)
      .invalidRule (some ruleId) s!"{path}.message"
      (s!"rejection message must be at most {maxRejectionMessageBytes} bytes" ++
        " and contain no control characters")
  | _ => []

def ruleReports (rule : ModelMappingRule) (index : Nat) : List ModelMappingDiagnostic :=
  let path := s!"rules[{index}]"
  report (¬ validIdentifier rule.id maxRuleIdBytes) .invalidRule (some rule.id) s!"{path}.id"
    s!"rule id must be 1..={maxRuleIdBytes} bytes" ++
  report (¬ (1 ≤ rule.priority ∧ rule.priority ≤ maxPriority)) .invalidRule (some rule.id)
    s!"{path}.priority" s!"priority must be in 1..={maxPriority}" ++
  report (rule.note.any fun note => ¬ validNote note) .invalidRule (some rule.id)
    s!"{path}.note"
    s!"note must be at most {maxNoteBytes} bytes and contain no control characters" ++
  (compileMatcher rule.id s!"{path}.matcher" rule.matcher).2 ++
  validateConditions rule.id s!"{path}.conditions" rule.conditions ++
  validateRejection rule.id s!"{path}.action" rule.action ++
  (compileAction rule.id index rule.action).2

/-- The compiled form of a rule that is valid. -/
def compiledForm (rule : ModelMappingRule) (index : Nat) : CompiledRule :=
  { id := rule.id
    priority := rule.priority
    matcher := (compileMatcher rule.id s!"rules[{index}].matcher" rule.matcher).1
    conditions := rule.conditions
    action := (compileAction rule.id index rule.action).1
    revision := rule.revision }

/-- Each report on a rule makes it invalid, and an invalid rule is not compiled. -/
def compileRule (rule : ModelMappingRule) (index : Nat) :
    Option CompiledRule × List ModelMappingDiagnostic :=
  (if ruleReports rule index = [] then some (compiledForm rule index) else none,
    ruleReports rule index)

/-! ### The rules together -/

def isUnconditional (conditions : RuleConditions) : Bool :=
  conditions.endpointKinds = none ∧ conditions.stream = .any ∧ conditions.tools = .any ∧
    conditions.vision = .any ∧ conditions.reasoning = .any

def validateDefaultRules (rules : List CompiledRule) : List ModelMappingDiagnostic :=
  let unconditional := rules.filter fun rule =>
    rule.matcher = .default ∧ isUnconditional rule.conditions
  (if 1 < unconditional.length then
    unconditional.map fun rule => ⟨.invalidDefault, some rule.id, "matcher",
      "only one unconditional default rule may be enabled"⟩
  else []) ++
  unconditional.flatMap fun default =>
    report (rules.any fun other => other.id ≠ default.id ∧ other.priority ≤ default.priority)
      .invalidDefault (some default.id) "priority"
      "an unconditional default must have the lowest enabled priority"

def matcherIntersects : CompiledMatcher → CompiledMatcher → Except GlobIntersectionError Bool
  | .default, _ => .ok true
  | _, .default => .ok true
  | .exact left, .exact right => .ok (left = right)
  | .glob glob, .exact exact => .ok (glob.matches exact)
  | .exact exact, .glob glob => .ok (glob.matches exact)
  | .glob left, .glob right => left.intersects right

def matcherCovers : CompiledMatcher → CompiledMatcher → Bool
  | .default, _ => true
  | .exact left, .exact right => left = right
  | .glob glob, .exact exact => glob.matches exact
  | .glob left, .glob right => left = right
  | .exact _, .default => false
  | .exact _, .glob _ => false
  | .glob _, .default => false

def endpointIntersects : Option (List EndpointKind) → Option (List EndpointKind) → Bool
  | none, _ => true
  | _, none => true
  | some left, some right => left.any right.contains

def endpointCovers : Option (List EndpointKind) → Option (List EndpointKind) → Bool
  | none, _ => true
  | some _, none => false
  | some left, some right => right.all left.contains

def requirementIntersects : ConditionRequirement → ConditionRequirement → Bool
  | .required, .forbidden => false
  | .forbidden, .required => false
  | _, _ => true

def requirementCovers (left right : ConditionRequirement) : Bool := left = .any ∨ left = right

def conditionsIntersect (left right : RuleConditions) : Bool :=
  endpointIntersects left.endpointKinds right.endpointKinds &&
    requirementIntersects left.stream right.stream &&
    requirementIntersects left.tools right.tools &&
    requirementIntersects left.vision right.vision &&
    requirementIntersects left.reasoning right.reasoning

def conditionsCovers (left right : RuleConditions) : Bool :=
  endpointCovers left.endpointKinds right.endpointKinds &&
    requirementCovers left.stream right.stream &&
    requirementCovers left.tools right.tools &&
    requirementCovers left.vision right.vision &&
    requirementCovers left.reasoning right.reasoning

def shadowDiagnostic (higher lower : CompiledRule) : ModelMappingDiagnostic :=
  ⟨.ruleShadowed, some lower.id, "priority",
    s!"rule is completely shadowed by higher-priority rule {higher.id}"⟩

def conflictDiagnostic (rule other : CompiledRule) : ModelMappingDiagnostic :=
  ⟨.ruleConflict, some rule.id, "priority", s!"rule overlaps same-priority rule {other.id}"⟩

/-- `higher` matches whatever `lower` does and comes first. -/
def covers (higher lower : CompiledRule) : Bool :=
  lower.priority < higher.priority && matcherCovers higher.matcher lower.matcher &&
    conditionsCovers higher.conditions lower.conditions

def validatePair (left right : CompiledRule) : List ModelMappingDiagnostic :=
  if conditionsIntersect left.conditions right.conditions then
    match matcherIntersects left.matcher right.matcher with
    | .error .budgetExceeded => [⟨.globAnalysisBudget, some left.id, "matcher",
        s!"glob overlap analysis with rule {right.id} exceeded its bounded budget"⟩]
    | .ok false => []
    | .ok true =>
      (if left.priority = right.priority ∧ left.action ≠ right.action then
        [conflictDiagnostic left right, conflictDiagnostic right left]
      else []) ++
      (if covers left right then [shadowDiagnostic left right]
      else if covers right left then [shadowDiagnostic right left]
      else [])
  else []

def validateOverlapsAndShadowing : List CompiledRule → List ModelMappingDiagnostic
  | [] => []
  | left :: rest => rest.flatMap (validatePair left) ++ validateOverlapsAndShadowing rest

def CompiledMatcher.specificity : CompiledMatcher → Nat
  | .exact _ => 3
  | .glob _ => 2
  | .default => 0

def CompiledMatcher.literalSpecificity : CompiledMatcher → Nat
  | .glob pattern => pattern.literalCount
  | _ => 0

/-- Priority, specificity and literals from the highest, then the id. -/
def ruleOrder : CompiledRule → CompiledRule → Ordering :=
  compareLex (fun left right => compareOn (·.priority) right left) <|
  compareLex (fun left right => compareOn (·.matcher.specificity) right left) <|
  compareLex (fun left right => compareOn (·.matcher.literalSpecificity) right left) <|
  compareOn (·.id)

/-! ### The fence -/

def ruleRecord (rule : CompiledRule) : List UInt8 :=
  utf8 rule.id ++ beBytes 8 rule.revision.toNat ++ beBytes 4 rule.priority.toNat

def revisionRecord (entry : String × UInt64) : List UInt8 :=
  utf8 entry.1 ++ beBytes 8 entry.2.toNat

/-- The profiles, as the fence takes them: sorted by id, with their revisions. -/
def profileVector (profiles : List ModelProfile) : List (String × UInt64) :=
  (sortBy (compareOn (·.id)) profiles).map fun profile => (profile.id, profile.revision)

def bindingVector (bindings : List ModelOfferingBinding) : List (String × UInt64) :=
  (sortBy (compareOn (·.id)) bindings).map fun binding => (binding.id, binding.revision)

/-- What the fence feeds to its hash. -/
def fenceInput (revision : UInt64) (rules : List CompiledRule) (profiles : List ModelProfile)
    (bindings : List ModelOfferingBinding) : List UInt8 :=
  beBytes 8 revision.toNat ++ rules.flatMap ruleRecord ++
    (profileVector profiles).flatMap revisionRecord ++
    (bindingVector bindings).flatMap revisionRecord

def hexDigit (n : Nat) : Char := Nat.digitChar n

def hexDigest (bytes : List UInt8) : String :=
  .ofList (bytes.flatMap fun byte => [hexDigit (byte.toNat / 16), hexDigit (byte.toNat % 16)])

section Hash
variable (sha256 : List UInt8 → List UInt8)

def resolutionFence (revision : UInt64) (rules : List CompiledRule)
    (profiles : List ModelProfile) (bindings : List ModelOfferingBinding) : String :=
  s!"mapping-{hexDigest (sha256 (fenceInput revision rules profiles bindings))}"

/-! ### The document -/

/-- The enabled rules that compile, in the order of the document. -/
def compiledRules (document : ModelMappingDocumentV1) : List CompiledRule :=
  document.rules.zipIdx.filterMap fun (rule, index) =>
    if rule.enabled then (compileRule rule index).1 else none

def validateRule (earlier : List ModelMappingRule) (index : Nat) (rule : ModelMappingRule) :
    List ModelMappingDiagnostic :=
  report (rule.id ∈ earlier.map (·.id)) .duplicateRuleId (some rule.id) s!"rules[{index}].id"
    "rule IDs must be unique" ++
  (compileRule rule index).2

def diagnose (document : ModelMappingDocumentV1) : List ModelMappingDiagnostic :=
  report (document.formatVersion ≠ modelMappingFormatVersion) .invalidDocument none
    "formatVersion" s!"formatVersion must be {modelMappingFormatVersion}" ++
  report (maxRules < document.rules.length) .invalidDocument none "rules"
    s!"at most {maxRules} rules are supported" ++
  validateProfilesAndBindings document ++
  validateRuleTargets document ++
  reportEach document.rules validateRule ++
  validateDefaultRules (compiledRules document) ++
  validateOverlapsAndShadowing (compiledRules document)

def diagnosticOrder : ModelMappingDiagnostic → ModelMappingDiagnostic → Ordering :=
  compareLex (compareOn fun d => d.ruleId.getD "") <| compareLex (compareOn (·.code)) <|
  compareLex (compareOn (·.path)) (compareOn (·.message))

/-- The configuration of a document that is compiled without a report. -/
def configuration (document : ModelMappingDocumentV1) (mappingRevision : UInt64) :
    CompiledModelMappingConfiguration :=
  let rules := sortBy ruleOrder (compiledRules document)
  { mappingRevision
    modelResolutionFence :=
      resolutionFence sha256 mappingRevision rules document.profiles document.bindings
    policy := document.policy
    rules
    profiles := document.profiles
    bindings := document.bindings }

def compileAtRevision (document : ModelMappingDocumentV1) (mappingRevision : UInt64) :
    Except CompileError CompiledModelMappingConfiguration :=
  let diagnostics := diagnose document
  if diagnostics ≠ [] then .error ⟨sortBy diagnosticOrder diagnostics⟩
  else .ok (configuration sha256 document mappingRevision)

theorem compileAtRevision_ok {document : ModelMappingDocumentV1} {mappingRevision : UInt64}
    {compiled : CompiledModelMappingConfiguration} :
    compileAtRevision sha256 document mappingRevision = .ok compiled ↔
      diagnose document = [] ∧ configuration sha256 document mappingRevision = compiled := by
  simp only [compileAtRevision, Fallible.check_ok, not_not, Except.ok.injEq]

end Hash

/-! ### What a compiled rule comes from -/

theorem compileMatcher_fst (ruleId path path' : String) (matcher : Matcher) :
    (compileMatcher ruleId path matcher).1 = (compileMatcher ruleId path' matcher).1 := by
  cases matcher with
  | exact model => unfold compileMatcher; dsimp only; split <;> rfl
  | glob pattern => unfold compileMatcher; dsimp only; split <;> rfl
  | default => rfl

theorem compileMatcher_snd (ruleId path path' : String) (matcher : Matcher) :
    (compileMatcher ruleId path matcher).2 = [] ↔ (compileMatcher ruleId path' matcher).2 = [] := by
  cases matcher with
  | exact model => unfold compileMatcher; dsimp only; split <;> simp
  | glob pattern => unfold compileMatcher; dsimp only; split <;> simp
  | default => rfl

theorem compileTarget_fst (ruleId path path' : String) (target : TargetRef) :
    (compileTarget ruleId path target).1 = (compileTarget ruleId path' target).1 := by
  cases target with
  | literal model => unfold compileTarget; dsimp only; split <;> rfl
  | modelProfile id => rfl

theorem compileTarget_snd (ruleId path path' : String) (target : TargetRef) :
    (compileTarget ruleId path target).2 = [] ↔ (compileTarget ruleId path' target).2 = [] := by
  cases target with
  | literal model => unfold compileTarget; dsimp only; split <;> simp
  | modelProfile id => rfl

/-- The action of a compiled rule: its targets one by one. -/
theorem compileAction_fst (ruleId : String) (index : Nat) (action : Action) :
    (compileAction ruleId index action).1 = match action with
      | .mapFixed target => .mapFixed (compileTarget ruleId "" target).1
      | .mapFallbackChain targets trigger =>
        .mapFallbackChain (targets.map fun target => (compileTarget ruleId "" target).1) trigger
      | other => other := by
  cases action with
  | mapFixed target => exact congrArg Action.mapFixed (compileTarget_fst ..)
  | mapFallbackChain targets trigger =>
    have each : (targets.zipIdx.map fun (target, targetIndex) => compileTarget ruleId
        s!"rules[{index}].action.targets[{targetIndex}]" target).map Prod.fst =
        targets.map fun target => (compileTarget ruleId "" target).1 := by
      conv_rhs => rw [← List.zipIdx_map_fst 0 targets]
      rw [List.map_map, List.map_map]
      exact List.map_congr_left fun entry _ => compileTarget_fst ..
    exact congrArg (Action.mapFallbackChain · trigger) each
  | preserve => rfl
  | reject kind message => rfl

theorem compileAction_snd (ruleId : String) (index index' : Nat) (action : Action) :
    (compileAction ruleId index action).2 = [] ↔ (compileAction ruleId index' action).2 = [] := by
  cases action with
  | mapFixed target => exact compileTarget_snd ..
  | mapFallbackChain targets trigger =>
    simp only [compileAction, List.flatMap_map, List.flatMap_eq_nil_iff]
    exact forall₂_congr fun entry _ => compileTarget_snd ..
  | preserve => rfl
  | reject kind message => rfl

theorem compiledForm_index (source : ModelMappingRule) (index next : Nat) :
    compiledForm source index = compiledForm source next := by
  unfold compiledForm
  rw [compileMatcher_fst _ _ s!"rules[{next}].matcher", compileAction_fst,
    ← compileAction_fst _ next]

theorem validateConditions_eq_nil (ruleId path path' : String) (conditions : RuleConditions) :
    validateConditions ruleId path conditions = [] ↔
      validateConditions ruleId path' conditions = [] := by
  unfold validateConditions
  split
  · rfl
  · simp only [List.append_eq_nil_iff, report_eq_nil]

theorem validateRejection_eq_nil (ruleId path path' : String) (action : Action) :
    validateRejection ruleId path action = [] ↔ validateRejection ruleId path' action = [] := by
  unfold validateRejection
  split
  · simp only [report_eq_nil]
  · rfl

theorem ruleReports_index (source : ModelMappingRule) (index index' : Nat) :
    ruleReports source index = [] ↔ ruleReports source index' = [] := by
  simp only [ruleReports, List.append_eq_nil_iff, report_eq_nil]
  exact and_congr (and_congr (and_congr (and_congr Iff.rfl (compileMatcher_snd ..))
    (validateConditions_eq_nil ..)) (validateRejection_eq_nil ..)) (compileAction_snd ..)

/-- Where a rule stands in the document does not matter to what it compiles to. -/
theorem compileRule_index (source : ModelMappingRule) (index index' : Nat) :
    (compileRule source index).1 = (compileRule source index').1 := by
  unfold compileRule
  simp only [ruleReports_index source index index', compiledForm_index source index index']

theorem compileRule_some {source : ModelMappingRule} {index : Nat} {rule : CompiledRule} :
    (compileRule source index).1 = some rule ↔
      ruleReports source index = [] ∧ compiledForm source index = rule := by
  unfold compileRule
  generalize ruleReports source index = reports
  by_cases valid : reports = []
  · simp only [valid, if_true, Option.some.injEq, true_and]
  · simp only [valid, if_false, false_and, reduceCtorEq]

/-- The compiled form of an enabled rule, unless it is reported. -/
def compileEnabled (source : ModelMappingRule) : Option CompiledRule :=
  if source.enabled then (compileRule source 0).1 else none

theorem compiledRules_eq (document : ModelMappingDocumentV1) :
    compiledRules document = document.rules.filterMap compileEnabled := by
  unfold compiledRules
  conv_rhs => rw [← List.zipIdx_map_fst 0 document.rules]
  rw [List.filterMap_map]
  refine List.filterMap_congr fun entry _ => ?_
  simp only [Function.comp_apply, compileEnabled, compileRule_index entry.1 entry.2 0]

theorem mem_compiledRules {document : ModelMappingDocumentV1} {rule : CompiledRule}
    (mem : rule ∈ compiledRules document) : ∃ source ∈ document.rules, source.enabled = true ∧
      ruleReports source 0 = [] ∧ rule = compiledForm source 0 := by
  rw [compiledRules_eq] at mem
  obtain ⟨source, present, compiled⟩ := List.mem_filterMap.mp mem
  unfold compileEnabled at compiled
  split at compiled
  · rename_i enabled
    obtain ⟨valid, form⟩ := compileRule_some.mp compiled
    exact ⟨source, present, enabled, valid, form.symm⟩
  · exact absurd compiled nofun

/-- A compiled action has as many targets as its source. -/
theorem length_compiled_targets (source : ModelMappingRule) :
    (compiledForm source 0).action.targets.length = source.action.targets.length := by
  unfold compiledForm
  rw [compileAction_fst]
  cases source.action <;> simp [Action.targets]

/-- A document without a report has chains of a bounded length. -/
theorem compiled_targets_short {document : ModelMappingDocumentV1} (clean : diagnose document = [])
    {rule : CompiledRule} (mem : rule ∈ compiledRules document) :
    rule.action.targets.length ≤ maxTargetsPerRule := by
  obtain ⟨source, present, -, -, rfl⟩ := mem_compiledRules mem
  rw [length_compiled_targets]
  simp only [diagnose, List.append_eq_nil_iff] at clean
  obtain ⟨⟨⟨⟨-, targets⟩, -⟩, -⟩, -⟩ := clean
  obtain ⟨index, found⟩ := List.getElem?_of_mem present
  have each := reportEach_eq_nil.mp targets index source found
  have bounded := report_eq_nil.mp (List.append_eq_nil_iff.mp each).1
  cases action : source.action with
  | mapFixed target => exact (by decide : 1 ≤ maxTargetsPerRule)
  | mapFallbackChain chain trigger =>
    rw [action, decide_eq_false_iff_not] at bounded
    by_contra long
    exact bounded ⟨rfl, fun within => long within.2⟩
  | preserve => exact Nat.zero_le _
  | reject kind message => exact Nat.zero_le _

end RelayPool.Mapping
