import RelayPool.Cutover.Fence
import RelayPool.Runs

/-! The transactions of the coordinator (`routing_generation_coordinator.rs`) as a system.

The state is the registry with the clock. Every transaction runs one operation of the store,
or the fence and the activation of a policy in one piece; when it ends in an error it is
rolled back. Beside them policies are staged and components are built. -/
namespace RelayPool.Cutover
open Table

inductive RoutingGenerationCoordinatorError
  | cutoverBusy
  | conflict
  | policyFingerprintMismatch
  | persistence (error : PersistenceError)
  deriving DecidableEq

/-- The conversion of the errors of the store. -/
def persistence {α : Type} (x : Except PersistenceError α) :
    Except RoutingGenerationCoordinatorError α :=
  x.mapError .persistence

/-- What `activate` reads outside the registry. -/
structure CutoverReads where
  pendingAdmittedAttempts : Nat
  /-- The hash of the staged policy, unless it cannot be read. -/
  policyHash : Except RoutingGenerationCoordinatorError String
  activation : ActivationReads

/-- What `activate_policy_only` reads outside the registry. -/
structure PolicyOnlyReads where
  latestStagedPolicyRevision : Option Nat
  sourceProfileCurrent : Bool
  qualified : Bool
  activation : ActivationReads

namespace RegistryDb

def activate (db : RegistryDb) (fence : RoutingGenerationFence) (rollback : Bool)
    (reads : CutoverReads) (nowMs : Int) :
    Except RoutingGenerationCoordinatorError RegistryDb := do
  if reads.pendingAdmittedAttempts ≠ 0 then throw .cutoverBusy
  match ← persistence (db.loadRuntimeGeneration fence.targetRuntimeGenerationId) with
  | none => throw .conflict
  | some target =>
    let policyHash ← reads.policyHash
    if policyHash ≠ target.policyInputHash ∨ policyHash ≠ target.policyContentHash then
      throw .policyFingerprintMismatch
    persistence (db.activateFencedGeneration fence rollback false reads.activation nowMs)

/-- Only the policy of the target is new. -/
def policyOnly (target active : RuntimeGenerationRow) : Bool :=
  target.status = .ready ∧ target.qualityGenerationId = active.qualityGenerationId ∧
    target.circuitGenerationId = active.circuitGenerationId ∧
    target.inputObservationWatermark = active.inputObservationWatermark ∧
    target.inputCircuitEventWatermark = active.inputCircuitEventWatermark ∧
    target.qualityInputHash = active.qualityInputHash ∧
    target.circuitInputHash = active.circuitInputHash ∧
    target.qualityContentHash = active.qualityContentHash ∧
    target.circuitContentHash = active.circuitContentHash

def activatePolicyOnly (db : RegistryDb) (targetId expectedActive : String)
    (reads : PolicyOnlyReads) (nowMs : Int) :
    Except RoutingGenerationCoordinatorError RegistryDb := do
  let registry ← persistence db.loadRegistrySnapshot
  match registry.active with
  | none => throw .conflict
  | some active =>
    match ← persistence (db.loadRuntimeGeneration targetId) with
    | none => throw .conflict
    | some target =>
      if active.runtimeGenerationId ≠ expectedActive ∨ ¬ policyOnly target active then
        throw .conflict
      if reads.latestStagedPolicyRevision ≠ some target.policyRevision then throw .conflict
      if ¬ reads.sourceProfileCurrent then throw .conflict
      let (fence, fenced) ← persistence
        (db.beginFence targetId (some expectedActive) false (some "policy_fast") reads.qualified
          nowMs)
      persistence (fenced.activateFencedGeneration fence false true reads.activation nowMs)

/-- The fence is aborted in the mode that its audit says it was begun in. -/
def abortOwnMode (db : RegistryDb) (fence : RoutingGenerationFence) (reason : String)
    (nowMs : Int) : Except PersistenceError RegistryDb := do
  let rollback ← db.isRollbackFence fence
  db.abortFence fence rollback reason nowMs

/-- A policy is staged once; only its status changes afterwards. -/
def stagePolicy (db : RegistryDb) (policy : StagedPolicy) : Except PersistenceError RegistryDb :=
  match lookup (·.policyGenerationId) db.components.policies policy.policyGenerationId with
  | some _ => .error .constraintViolation
  | none => .ok { db with
      components := { db.components with policies := db.components.policies ++ [policy] } }

/-- A component is written until it has been built. -/
def buildComponent (rows : List ComponentGeneration) (component : ComponentGeneration) :
    Except PersistenceError (List ComponentGeneration) :=
  if (lookup (·.generationId) rows component.generationId).all (·.status = .building)
  then .ok (upsert (·.generationId) component rows)
  else .error (.revisionConflict "generation")

end RegistryDb

/-! ### The system -/

inductive RegistryOperation
  /-- The generation was made up some time before it is inserted. -/
  | insertBuilding (generation : NewRoutingRuntimeGeneration) (age : Nat)
  | markReady (id : String)
  | markStale (id : String)
  | beginFence (target : String) (expectedActive : Option String) (rollback : Bool)
      (reason : Option String) (qualified : Bool)
  | retargetFence (fence : RoutingGenerationFence) (replacement : String) (tail qualified : Bool)
  | abortFence (fence : RoutingGenerationFence) (reason : String)
  | activate (fence : RoutingGenerationFence) (rollback : Bool) (reads : CutoverReads)
  | activatePolicyOnly (target expectedActive : String) (reads : PolicyOnlyReads)
  | stagePolicy (policy : StagedPolicy)
  | buildQuality (component : ComponentGeneration)
  | buildCircuit (component : ComponentGeneration)

namespace RegistryOperation

def perform (op : RegistryOperation) (nowMs : Int) (db : RegistryDb) :
    Except RoutingGenerationCoordinatorError RegistryDb :=
  match op with
  | .insertBuilding generation age => persistence
      (db.insertBuildingRuntimeGeneration { generation with createdAtMs := nowMs - age })
  | .markReady id => persistence (db.markRuntimeGenerationReady id nowMs)
  | .markStale id => persistence (db.markReadyGenerationStale id nowMs)
  | .beginFence target expectedActive rollback reason qualified => persistence
      ((db.beginFence target expectedActive rollback reason qualified nowMs).map Prod.snd)
  | .retargetFence fence replacement tail qualified => persistence
      ((db.retargetFence fence replacement tail qualified nowMs).map Prod.snd)
  | .abortFence fence reason => persistence (db.abortOwnMode fence reason nowMs)
  | .activate fence rollback reads => db.activate fence rollback reads nowMs
  | .activatePolicyOnly target expectedActive reads =>
      db.activatePolicyOnly target expectedActive reads nowMs
  | .stagePolicy policy => persistence (db.stagePolicy policy)
  | .buildQuality component => persistence
      ((RegistryDb.buildComponent db.components.quality component).map db.withQuality)
  | .buildCircuit component => persistence
      ((RegistryDb.buildComponent db.components.circuit component).map db.withCircuit)

/-- The fence that the operation was given. -/
def fence? : RegistryOperation → Option RoutingGenerationFence
  | .retargetFence fence .. | .abortFence fence .. | .activate fence .. => some fence
  | _ => none

/-- Whether the operation begins a fence if it succeeds. -/
def begins : RegistryOperation → Bool
  | .beginFence .. | .activatePolicyOnly .. => true
  | _ => false

end RegistryOperation

/-- An operation and how long after the one before it is carried out. -/
structure Transaction where
  elapsed : Nat
  op : RegistryOperation

structure GenerationRegistry where
  db : RegistryDb
  clockMs : Int

namespace GenerationRegistry

def now (registry : GenerationRegistry) (transaction : Transaction) : Int :=
  registry.clockMs + transaction.elapsed

/-- What the transaction commits, if it does. -/
def commit (registry : GenerationRegistry) (transaction : Transaction) :
    Except RoutingGenerationCoordinatorError RegistryDb :=
  transaction.op.perform (registry.now transaction) registry.db

def step (registry : GenerationRegistry) (transaction : Transaction) : GenerationRegistry where
  db := match registry.commit transaction with
    | .ok db => db
    | .error _ => registry.db
  clockMs := registry.now transaction

/-- The registry before its first transaction. -/
def start (components : Components) (clockMs : Int) : GenerationRegistry :=
  ⟨.initial components, clockMs⟩

end GenerationRegistry

end RelayPool.Cutover
