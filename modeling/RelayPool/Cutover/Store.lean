import RelayPool.Fallible
import RelayPool.Table

/-! The registry of runtime generations (`routing_generation_store.rs`, migration 0063).

A runtime generation binds a policy, a quality and a circuit generation. One row of the
marker table says which runtime generation is active and which one a cutover has fenced.
This module has the tables with the constraints that SQLite checks when a row is written,
and what the store reads from them. -/
namespace RelayPool.Cutover
open Table

/-- The errors that callers tell apart, with their messages. -/
inductive PersistenceError
  | notFound
  | constraintViolation
  | databaseFailed
  | revisionConflict (entity : String)
  | invariantViolation (message : String)
  deriving DecidableEq

def registryCorrupt : String := "routing_generation_registry_corrupt"

def corrupt (detail : String) : PersistenceError :=
  .invariantViolation (registryCorrupt ++ ": " ++ detail)

inductive RoutingGenerationStatus
  | building
  | ready
  | cutoverFencing
  | active
  | retired
  | failed
  deriving DecidableEq

/-- A row of `routing_runtime_generation`. The columns that only an unfinished row may leave
empty are always written. -/
structure RuntimeGenerationRow where
  runtimeGenerationId : String
  policyGenerationId : String
  qualityGenerationId : String
  circuitGenerationId : String
  policyRevision : Nat
  qualityPolicyRevision : Nat
  circuitPolicyRevision : Nat
  algorithmVersion : String
  status : RoutingGenerationStatus
  inputObservationWatermark : Nat
  inputCircuitEventWatermark : Nat
  policyInputHash : String
  qualityInputHash : String
  circuitInputHash : String
  policyContentHash : String
  qualityContentHash : String
  circuitContentHash : String
  checkpointRef : String
  policyCheckpointRef : String
  qualityCheckpointRef : String
  circuitCheckpointRef : String
  cutoverFenceRevision : Option Nat
  createdAtMs : Int
  readyAtMs : Option Int
  activatedAtMs : Option Int
  retiredAtMs : Option Int
  failedAtMs : Option Int
  failureCode : Option String
  updatedAtMs : Int
  deriving DecidableEq

/-- `length(text) BETWEEN least AND most`. -/
def between (least most : Nat) (text : String) : Bool :=
  least ≤ text.length ∧ text.length ≤ most

/-- The CHECK constraints on what a row is and what it binds. -/
def RuntimeGenerationRow.described (row : RuntimeGenerationRow) : Bool :=
  between 5 192 row.runtimeGenerationId ∧ between 1 192 row.policyGenerationId ∧
    between 5 192 row.qualityGenerationId ∧ between 5 192 row.circuitGenerationId ∧
    0 < row.policyRevision ∧ 0 < row.qualityPolicyRevision ∧ 0 < row.circuitPolicyRevision ∧
    between 1 96 row.algorithmVersion ∧
    between 64 64 row.policyInputHash ∧ between 64 64 row.qualityInputHash ∧
    between 64 64 row.circuitInputHash ∧ between 64 64 row.policyContentHash ∧
    between 64 64 row.qualityContentHash ∧ between 64 64 row.circuitContentHash ∧
    between 1 192 row.checkpointRef ∧ between 1 192 row.policyCheckpointRef ∧
    between 1 192 row.qualityCheckpointRef ∧ between 1 192 row.circuitCheckpointRef

/-- The CHECK constraints on how far a row has come. -/
def RuntimeGenerationRow.dated (row : RuntimeGenerationRow) : Bool :=
  (row.cutoverFenceRevision.all fun revision => 0 < revision) ∧ 0 ≤ row.createdAtMs ∧
    (row.readyAtMs.all fun at' => row.createdAtMs ≤ at') ∧
    (row.activatedAtMs.all fun at' => row.createdAtMs ≤ at') ∧
    (row.retiredAtMs.all fun at' => row.createdAtMs ≤ at') ∧
    (row.failedAtMs.all fun at' => row.createdAtMs ≤ at') ∧
    (row.failureCode.all (between 1 96)) ∧ row.createdAtMs ≤ row.updatedAtMs ∧
    (row.status = .ready → row.readyAtMs.isSome) ∧
    (row.status = .active → row.activatedAtMs.isSome) ∧
    (row.status = .retired → row.retiredAtMs.isSome) ∧
    (row.status = .failed → row.failedAtMs.isSome ∧ row.failureCode.isSome)

def RuntimeGenerationRow.checks (row : RuntimeGenerationRow) : Bool := row.described ∧ row.dated

/-- The trigger on the status column. -/
def legalStatusTransition : RoutingGenerationStatus → RoutingGenerationStatus → Bool
  | .building, new => new = .building ∨ new = .ready ∨ new = .failed
  | .ready, new => new = .ready ∨ new = .cutoverFencing ∨ new = .failed
  | .cutoverFencing, new => new ≠ .building
  | .active, new => new = .active ∨ new = .retired
  | .retired, new => new = .retired ∨ new = .cutoverFencing
  | .failed, new => new = .failed

/-! ### The components that a generation binds -/

inductive StagedPolicyStatus
  | staged
  | ready
  | active
  | retired
  | failed
  deriving DecidableEq

structure StagedPolicy where
  policyGenerationId : String
  configRevision : Nat
  stagedPolicyVersion : String
  status : StagedPolicyStatus
  createdAtMs : Int
  updatedAtMs : Int
  deriving DecidableEq

inductive ComponentStatus
  | building
  | ready
  | active
  | retired
  | failed
  deriving DecidableEq

/-- A row of `routing_quality_generation_v3` or `routing_circuit_generation_v3`, with what its
checkpoint row says. -/
structure ComponentGeneration where
  generationId : String
  policyRevision : Nat
  algorithmVersion : String
  status : ComponentStatus
  inputWatermark : Option Nat
  inputHash : Option String
  outputContentHash : Option String
  checkpointRef : Option String
  activatedAtMs : Option Int
  createdAtMs : Int
  updatedAtMs : Int
  checkpointReady : Bool
  checkpointWatermark : Option Nat
  deriving DecidableEq

structure Components where
  policies : List StagedPolicy
  quality : List ComponentGeneration
  circuit : List ComponentGeneration

/-! ### The registry -/

inductive RoutingCutoverMode
  | preCutover
  | v3Active
  deriving DecidableEq

/-- The row of `routing_runtime_cutover_marker`. -/
structure RoutingGenerationMarker where
  mode : RoutingCutoverMode
  activeRuntimeGenerationId : Option String
  fencedRuntimeGenerationId : Option String
  fenceRevision : Nat
  updatedAtMs : Int
  deriving DecidableEq

inductive TransitionKind
  | cutoverStarted
  | cutoverAborted
  | cutoverActivated
  | rollbackStarted
  | rollbackActivated
  deriving DecidableEq

/-- A row of `routing_generation_transition_audit`. -/
structure TransitionAudit where
  transitionKind : TransitionKind
  sourceRuntimeGenerationId : Option String
  targetRuntimeGenerationId : String
  fenceRevision : Nat
  reasonCode : Option String
  createdAtMs : Int
  deriving DecidableEq

structure RegistryDb where
  generations : List RuntimeGenerationRow
  marker : RoutingGenerationMarker
  audits : List TransitionAudit
  components : Components

/-- What migration 0063 leaves, beside the components that there are. -/
def RegistryDb.initial (components : Components) : RegistryDb where
  generations := []
  marker := ⟨.preCutover, none, none, 0, 0⟩
  audits := []
  components

/-- The largest value of an SQLite integer. -/
def i64Max : Nat := 9223372036854775807

def toI64 (value : Nat) : Except PersistenceError Nat :=
  if i64Max < value then .error .constraintViolation else .ok value

structure RoutingGenerationRegistrySnapshot where
  marker : RoutingGenerationMarker
  active : Option RuntimeGenerationRow
  fencing : Option RuntimeGenerationRow
  deriving DecidableEq

structure RoutingGenerationFence where
  sourceRuntimeGenerationId : Option String
  targetRuntimeGenerationId : String
  fenceRevision : Nat
  deriving DecidableEq

namespace RegistryDb

/-- `runtime_generation_from_row`: no text that it requires is empty. -/
def fromRow (row : RuntimeGenerationRow) : Except PersistenceError RuntimeGenerationRow :=
  if row.policyInputHash ≠ "" ∧ row.qualityInputHash ≠ "" ∧ row.circuitInputHash ≠ "" ∧
      row.policyContentHash ≠ "" ∧ row.qualityContentHash ≠ "" ∧ row.circuitContentHash ≠ "" ∧
      row.checkpointRef ≠ ""
  then .ok row
  else .error (corrupt "required generation string is missing")

def loadRuntimeGeneration (db : RegistryDb) (id : String) :
    Except PersistenceError (Option RuntimeGenerationRow) :=
  match lookup (·.runtimeGenerationId) db.generations id with
  | none => .ok none
  | some row => (fromRow row).map some

/-- The order and the limit of the query only matter when there is more than one row. -/
def loadByStatus (db : RegistryDb) (status : RoutingGenerationStatus) :
    Except PersistenceError (List RuntimeGenerationRow) :=
  (((db.generations.filter (·.status = status)).insertionSort fun a b =>
    a.createdAtMs > b.createdAtMs ∨
      a.createdAtMs = b.createdAtMs ∧ a.runtimeGenerationId ≤ b.runtimeGenerationId).take 2).mapM
    fromRow

def requiredU64 (value : Option Nat) : Except PersistenceError Nat :=
  match value with
  | some value => .ok value
  | none => .error (corrupt "required generation integer is missing")

def requiredString (value : Option String) : Except PersistenceError String :=
  match value.filter (· ≠ "") with
  | some value => .ok value
  | none => .error (corrupt "required generation string is missing")

def validComponentStatus (status : ComponentStatus) : Bool :=
  status = .ready ∨ status = .active ∨ status = .retired

/-- The part of a component that must agree with the generation that binds it. -/
structure Binding where
  policyRevision : Nat
  watermark : Nat
  inputHash : String
  contentHash : String
  checkpointRef : String
  deriving DecidableEq

/-- What `validate_component_bindings` reads of one component; `none` when the component
itself is not in order. -/
def ComponentGeneration.binding (component : ComponentGeneration) :
    Except PersistenceError (Option Binding) := do
  let watermark ← requiredU64 component.inputWatermark
  let inputHash ← requiredString component.inputHash
  let contentHash ← requiredString component.outputContentHash
  let checkpointRef ← requiredString component.checkpointRef
  let checkpointWatermark ← requiredU64 component.checkpointWatermark
  if component.algorithmVersion ≠ "" ∧ validComponentStatus component.status ∧
      component.checkpointReady ∧ checkpointWatermark = watermark
  then return some ⟨component.policyRevision, watermark, inputHash, contentHash, checkpointRef⟩
  else return none

def validateComponentBindings (db : RegistryDb) (generation : RuntimeGenerationRow) :
    Except PersistenceError Unit := do
  match lookup (·.policyGenerationId) db.components.policies generation.policyGenerationId,
      lookup (·.generationId) db.components.quality generation.qualityGenerationId,
      lookup (·.generationId) db.components.circuit generation.circuitGenerationId with
  | some policy, some quality, some circuit =>
    let quality ← ComponentGeneration.binding quality
    let circuit ← ComponentGeneration.binding circuit
    if policy.configRevision = generation.policyRevision ∧
        policy.stagedPolicyVersion = "routing-policy-v3" ∧
        quality = some ⟨generation.qualityPolicyRevision, generation.inputObservationWatermark,
          generation.qualityInputHash, generation.qualityContentHash,
          generation.qualityCheckpointRef⟩ ∧
        circuit = some ⟨generation.circuitPolicyRevision, generation.inputCircuitEventWatermark,
          generation.circuitInputHash, generation.circuitContentHash,
          generation.circuitCheckpointRef⟩
    then return ()
    else throw (corrupt "runtime generation component metadata does not match")
  | _, _, _ => throw (corrupt "runtime generation component reference is missing")

def loadRegistrySnapshot (db : RegistryDb) :
    Except PersistenceError RoutingGenerationRegistrySnapshot := do
  let activeRows ← db.loadByStatus .active
  let fencingRows ← db.loadByStatus .cutoverFencing
  if 1 < activeRows.length ∨ 1 < fencingRows.length then
    throw (corrupt "generation status uniqueness is violated")
  let active := activeRows.head?
  let fencing := fencingRows.head?
  match db.marker.mode with
  | .preCutover =>
    if db.marker.activeRuntimeGenerationId.isSome ∨ active.isSome then
      throw (corrupt "pre-cutover marker has an active generation")
  | .v3Active =>
    match active with
    | none => throw (corrupt "v3 marker has no active generation")
    | some generation =>
      if db.marker.activeRuntimeGenerationId ≠ some generation.runtimeGenerationId then
        throw (corrupt "active pointer does not match the active registry row")
      db.validateComponentBindings generation
  if db.marker.fencedRuntimeGenerationId ≠ fencing.map (·.runtimeGenerationId) then
    throw (corrupt "fence pointer does not match the fencing registry row")
  return ⟨db.marker, active, fencing⟩

def assertFence (db : RegistryDb) (fence : RoutingGenerationFence) :
    Except PersistenceError Unit := do
  let snapshot ← db.loadRegistrySnapshot
  if snapshot.marker.fenceRevision ≠ fence.fenceRevision ∨
      snapshot.marker.fencedRuntimeGenerationId ≠ some fence.targetRuntimeGenerationId ∨
      snapshot.marker.activeRuntimeGenerationId ≠ fence.sourceRuntimeGenerationId
  then throw (.revisionConflict "routing_runtime_generation")

/-- Whether the fence was begun as a rollback, by the audit of its revision and source. -/
def isRollbackFence (db : RegistryDb) (fence : RoutingGenerationFence) :
    Except PersistenceError Bool :=
  let count := db.audits.countP fun audit =>
    audit.transitionKind = .rollbackStarted ∧ audit.fenceRevision = fence.fenceRevision ∧
      audit.sourceRuntimeGenerationId = fence.sourceRuntimeGenerationId
  if 1 < count then .error (corrupt "duplicate rollback fence audit") else .ok (count = 1)

end RegistryDb

end RelayPool.Cutover
