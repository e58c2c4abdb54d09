import RelayPool.Protocol.Event

/-! The model mapping document and the facts of a request it is asked about.

A rule has a matcher for the requested model, conditions on the rest of the
request, and an action. A target of an action names an upstream model or a model
profile. Model names are compared without the white space around them. -/
namespace RelayPool.Mapping
open Protocol (trim)

def modelMappingFormatVersion : UInt16 := 1
def maxModelNameBytes : Nat := 256
def maxRules : Nat := 256
def maxProfiles : Nat := 256
def maxBindings : Nat := 512
def maxTargetsPerRule : Nat := 3
def maxRuleIdBytes : Nat := 128
def maxPriority : UInt32 := 1000000
def maxNoteBytes : Nat := 1024
def maxRejectionMessageBytes : Nat := 256

/-- Unicode general category Cc, which has the null character in it. -/
def isControl (c : Char) : Bool := c.toNat < 0x20 || (0x7f ≤ c.toNat && c.toNat ≤ 0x9f)

/-- A character that names, notes and messages may not have. -/
def isForbidden (c : Char) : Bool := c = '\x00' || isControl c

def normalizeModelName (value : String) : Option String :=
  if trim value = "" ∨ maxModelNameBytes < (trim value).utf8ByteSize ∨
      (trim value).toList.any isForbidden
  then none
  else some (trim value)

inductive UnmatchedModelBehavior where
  | preserve
  | reject
deriving DecidableEq, Repr

structure ModelMappingPolicy where
  unmatchedModelBehavior : UnmatchedModelBehavior
deriving DecidableEq, Repr

inductive EndpointKind where
  | chatCompletions
  | responses
  | embeddings
  | models
  | usage
deriving DecidableEq, Repr

def EndpointKind.isMappingBypass : EndpointKind → Bool
  | .models | .usage => true
  | _ => false

/-- The name the source's derived `Debug` prints. -/
def EndpointKind.debug : EndpointKind → String
  | .chatCompletions => "ChatCompletions"
  | .responses => "Responses"
  | .embeddings => "Embeddings"
  | .models => "Models"
  | .usage => "Usage"

inductive ConditionRequirement where
  | any
  | required
  | forbidden
deriving DecidableEq, Repr

structure RuleConditions where
  endpointKinds : Option (List EndpointKind)
  stream : ConditionRequirement
  tools : ConditionRequirement
  vision : ConditionRequirement
  reasoning : ConditionRequirement
deriving DecidableEq, Repr

inductive Matcher where
  | exact (model : String)
  | glob (pattern : String)
  | default
deriving DecidableEq, Repr

inductive TargetRef where
  | literal (upstreamModel : String)
  | modelProfile (modelProfileId : String)
deriving DecidableEq, Repr

inductive FallbackTrigger where
  | noEligibleTarget
  | retryExhaustedBeforeOutput
deriving DecidableEq, Repr

inductive ModelProfileStatus where
  | active
  | archived
deriving DecidableEq, Repr

structure ModelProfile where
  id : String
  canonicalModel : String
  displayName : String
  defaultUpstreamModel : Option String
  status : ModelProfileStatus
  note : Option String
  revision : UInt64
  createdAtMs : Int64
  updatedAtMs : Int64
deriving DecidableEq

structure ModelOfferingBinding where
  id : String
  modelProfileId : String
  stationKeyId : Option String
  stationId : Option String
  upstreamModel : String
  enabled : Bool
  note : Option String
  revision : UInt64
  createdAtMs : Int64
  updatedAtMs : Int64
deriving DecidableEq

inductive RejectionKind where
  | unsupportedModel
  | policyDenied
  | clientNotAllowed
deriving DecidableEq, Repr

inductive Action where
  | mapFixed (target : TargetRef)
  | mapFallbackChain (targets : List TargetRef) (fallbackTrigger : FallbackTrigger)
  | preserve
  | reject (rejectionKind : RejectionKind) (message : Option String)
deriving DecidableEq, Repr

structure ModelMappingRule where
  id : String
  priority : UInt32
  enabled : Bool
  matcher : Matcher
  conditions : RuleConditions
  action : Action
  note : Option String
  revision : UInt64
deriving DecidableEq

structure ModelMappingDocumentV1 where
  formatVersion : UInt16
  baseRevision : UInt64
  policy : ModelMappingPolicy
  rules : List ModelMappingRule
  profiles : List ModelProfile
  bindings : List ModelOfferingBinding
deriving DecidableEq

structure ModelRequestFacts where
  requestedModel : Option String
  endpoint : EndpointKind
  stream : Bool
  tools : Bool
  vision : Bool
  reasoning : Bool
deriving DecidableEq, Repr

end RelayPool.Mapping
