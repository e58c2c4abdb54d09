import RelayPool.Mapping.Document
import Mathlib.Data.List.Basic

/-! What the compiler reports about a document before its rules are compiled.

Every check names the field it is about. A loop over the document's lists looks
at an entry, at its index and, for the sets the loop fills, at the entries before
it. -/
namespace RelayPool.Mapping
open Protocol (trim)

inductive DiagnosticCode where
  | invalidDocument
  | invalidRule
  | duplicateRuleId
  | duplicateBindingScope
  | invalidModelName
  | invalidCondition
  | invalidProfileReference
  | invalidDefault
  | ruleConflict
  | ruleShadowed
  | emptyTarget
  | duplicateTarget
  | invalidTargetReference
  | invalidFallback
  | invalidGlob
  | globAnalysisBudget
deriving DecidableEq, Repr, Ord

structure ModelMappingDiagnostic where
  code : DiagnosticCode
  ruleId : Option String
  path : String
  message : String
deriving DecidableEq, Repr

/-- One diagnostic when the condition holds. -/
def report (condition : Bool) (code : DiagnosticCode) (ruleId : Option String)
    (path message : String) : List ModelMappingDiagnostic :=
  if condition then [⟨code, ruleId, path, message⟩] else []

@[simp] theorem report_eq_nil {condition : Bool} {code : DiagnosticCode} {ruleId : Option String}
    {path message : String} : report condition code ruleId path message = [] ↔
      condition = false := by
  cases condition <;> simp [report]

@[simp] theorem mem_report {condition : Bool} {code : DiagnosticCode} {ruleId : Option String}
    {path message : String} {d : ModelMappingDiagnostic} :
    d ∈ report condition code ruleId path message ↔
      condition = true ∧ d = ⟨code, ruleId, path, message⟩ := by
  cases condition <;> simp [report]

/-- What a loop reports that looks at each entry, its index and the entries before it. -/
def reportEach {α : Type} (xs : List α)
    (f : List α → Nat → α → List ModelMappingDiagnostic) : List ModelMappingDiagnostic :=
  xs.zipIdx.flatMap fun (x, index) => f (xs.take index) index x

theorem mem_reportEach {α : Type} {xs : List α}
    {f : List α → Nat → α → List ModelMappingDiagnostic} {d : ModelMappingDiagnostic} :
    d ∈ reportEach xs f ↔ ∃ index x, xs[index]? = some x ∧ d ∈ f (xs.take index) index x := by
  unfold reportEach
  rw [List.mem_flatMap]
  constructor
  · rintro ⟨⟨x, index⟩, mem, reported⟩
    exact ⟨index, x, List.mk_mem_zipIdx_iff_getElem?.mp mem, reported⟩
  · rintro ⟨index, x, present, reported⟩
    exact ⟨(x, index), List.mk_mem_zipIdx_iff_getElem?.mpr present, reported⟩

theorem reportEach_eq_nil {α : Type} {xs : List α}
    {f : List α → Nat → α → List ModelMappingDiagnostic} : reportEach xs f = [] ↔
      ∀ index x, xs[index]? = some x → f (xs.take index) index x = [] := by
  unfold reportEach
  rw [List.flatMap_eq_nil_iff]
  constructor
  · exact fun none index x present => none (x, index) (List.mk_mem_zipIdx_iff_getElem?.mpr present)
  · exact fun none entry mem => none entry.2 entry.1 (List.mk_mem_zipIdx_iff_getElem?.mp mem)

def validIdentifier (value : String) (maxBytes : Nat) : Bool :=
  trim value ≠ "" ∧ value.utf8ByteSize ≤ maxBytes ∧ ¬ value.toList.any isForbidden

def validDisplayName (value : String) : Bool :=
  trim value ≠ "" ∧ value.utf8ByteSize ≤ maxNoteBytes ∧ ¬ value.toList.any isControl

def validNote (value : String) : Bool :=
  value.utf8ByteSize ≤ maxNoteBytes ∧ ¬ value.toList.any isForbidden

def validateTimestampMetadata (path : String) (createdAtMs updatedAtMs : Int64) :
    List ModelMappingDiagnostic :=
  report (createdAtMs < 0 ∨ updatedAtMs < 0 ∨ updatedAtMs < createdAtMs) .invalidRule none path
    "object timestamps are invalid"

/-! ### Profiles and bindings -/

def validateProfile (earlier : List ModelProfile) (index : Nat) (profile : ModelProfile) :
    List ModelMappingDiagnostic :=
  let path := s!"profiles[{index}]"
  report (¬ validIdentifier profile.id maxRuleIdBytes) .invalidRule none s!"{path}.id"
    "profile id is invalid" ++
  report (profile.id ∈ earlier.map (·.id)) .duplicateRuleId none s!"{path}.id"
    "profile IDs must be unique" ++
  (match normalizeModelName profile.canonicalModel with
  | some canonical =>
    report (earlier.any fun other => normalizeModelName other.canonicalModel = some canonical)
      .ruleConflict none s!"{path}.canonicalModel" "canonical model names must be unique"
  | none =>
    [⟨.invalidModelName, none, s!"{path}.canonicalModel", "canonical model is invalid"⟩]) ++
  report (¬ validDisplayName profile.displayName) .invalidRule none s!"{path}.displayName"
    "display name is invalid" ++
  report (profile.note.any fun note => ¬ validNote note) .invalidRule none s!"{path}.note"
    "profile note is invalid" ++
  report (profile.defaultUpstreamModel.any fun model => normalizeModelName model = none)
    .invalidModelName none s!"{path}.defaultUpstreamModel" "default upstream model is invalid" ++
  validateTimestampMetadata path profile.createdAtMs profile.updatedAtMs

def validateBinding (profiles : List ModelProfile) (earlier : List ModelOfferingBinding)
    (index : Nat) (binding : ModelOfferingBinding) : List ModelMappingDiagnostic :=
  let path := s!"bindings[{index}]"
  report (¬ validIdentifier binding.id maxRuleIdBytes) .invalidRule none s!"{path}.id"
    "binding id is invalid" ++
  report (binding.id ∈ earlier.map (·.id)) .duplicateRuleId none s!"{path}.id"
    "binding IDs must be unique" ++
  (if ¬ validIdentifier binding.modelProfileId maxRuleIdBytes then
    [⟨.invalidRule, none, s!"{path}.modelProfileId", "binding profile ID is invalid"⟩]
  else
    report (binding.modelProfileId ∉ profiles.map (·.id)) .invalidProfileReference none
      s!"{path}.modelProfileId" "binding must reference a profile in the same document") ++
  report (binding.stationKeyId.isSome = binding.stationId.isSome) .invalidCondition none
    s!"{path}.stationKeyId/stationId" "exactly one binding scope must be set" ++
  report ((binding.stationKeyId.or binding.stationId).any fun id =>
      ¬ validIdentifier id maxRuleIdBytes) .invalidRule none s!"{path}.stationKeyId/stationId"
    "binding scope ID is invalid" ++
  report (binding.stationKeyId.isSome ∧ earlier.any fun other =>
      other.modelProfileId = binding.modelProfileId ∧ other.stationKeyId = binding.stationKeyId)
    .duplicateBindingScope none s!"{path}.stationKeyId"
    "a profile may have at most one binding for a station key" ++
  report (binding.stationId.isSome ∧ earlier.any fun other =>
      other.modelProfileId = binding.modelProfileId ∧ other.stationId = binding.stationId)
    .duplicateBindingScope none s!"{path}.stationId"
    "a profile may have at most one binding for a station" ++
  report (normalizeModelName binding.upstreamModel = none) .invalidModelName none
    s!"{path}.upstreamModel" "binding upstream model is invalid" ++
  report (binding.note.any fun note => ¬ validNote note) .invalidRule none s!"{path}.note"
    "binding note is invalid" ++
  validateTimestampMetadata path binding.createdAtMs binding.updatedAtMs

def validateProfilesAndBindings (document : ModelMappingDocumentV1) :
    List ModelMappingDiagnostic :=
  report (maxProfiles < document.profiles.length) .invalidDocument none "profiles"
    s!"at most {maxProfiles} profiles are supported" ++
  report (maxBindings < document.bindings.length) .invalidDocument none "bindings"
    s!"at most {maxBindings} bindings are supported" ++
  reportEach document.profiles validateProfile ++
  reportEach document.bindings (validateBinding document.profiles)

/-! ### The targets of the rules -/

/-- The targets of an action that maps. -/
def Action.targets : Action → List TargetRef
  | .mapFixed target => [target]
  | .mapFallbackChain targets _ => targets
  | .preserve => []
  | .reject _ _ => []

def TargetRef.key : TargetRef → String
  | .literal upstreamModel => s!"literal:{upstreamModel}"
  | .modelProfile modelProfileId => s!"profile:{modelProfileId}"

def validateTargetRef (profiles : List ModelProfile) (ruleId path : String) :
    TargetRef → List ModelMappingDiagnostic
  | .literal _ => []
  | .modelProfile modelProfileId =>
    -- of two profiles with one id the map keeps the later
    match profiles.reverse.find? (·.id = modelProfileId) with
    | some profile =>
      report (profile.status = .archived) .invalidTargetReference (some ruleId) path
        "target profile is archived"
    | none =>
      [⟨.invalidTargetReference, some ruleId, path,
        "target profile does not exist in the document"⟩]

def validateRuleTarget (profiles : List ModelProfile) (ruleId : String) (index : Nat)
    (earlier : List TargetRef) (targetIndex : Nat) (target : TargetRef) :
    List ModelMappingDiagnostic :=
  let path := s!"rules[{index}].action.targets[{targetIndex}]"
  validateTargetRef profiles ruleId path target ++
  report (target.key ∈ earlier.map TargetRef.key) .duplicateTarget (some ruleId) path
    "target references must be unique within a fallback chain"

def Action.isChain : Action → Bool
  | .mapFallbackChain _ _ => true
  | _ => false

def validateRuleTargets (document : ModelMappingDocumentV1) : List ModelMappingDiagnostic :=
  reportEach document.rules fun _ index rule =>
    report (rule.action.isChain ∧
        ¬ (2 ≤ rule.action.targets.length ∧ rule.action.targets.length ≤ maxTargetsPerRule))
      .invalidFallback (some rule.id) s!"rules[{index}].action.targets"
      s!"fallback chains must contain 2..={maxTargetsPerRule} targets" ++
    reportEach rule.action.targets (validateRuleTarget document.profiles rule.id index)

end RelayPool.Mapping
