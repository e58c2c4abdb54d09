import RelayPool.Cutover.Store

/-! Inserting, fencing and activating runtime generations.

Every operation runs in a transaction of its own, so one that ends in an error leaves the
tables as they were. A statement that writes a row fails when a constraint or a trigger
refuses the row. What an operation reads from tables outside the registry (the
qualification reports, the tails of observations and circuit events, the live circuit
state) comes to it as the answer of that read. -/
namespace RelayPool.Cutover
open Table

namespace RegistryDb

/-- A unique index over the rows with one status. -/
def uniqueStatus (rows : List RuntimeGenerationRow) (status : RoutingGenerationStatus) : Bool :=
  rows.countP (·.status = status) ≤ 1

/-- `UPDATE routing_runtime_generation … WHERE runtime_generation_id = id AND …`, which must
affect one row. -/
def updateGeneration (db : RegistryDb) (id : String) (p : RuntimeGenerationRow → Bool)
    (f : RuntimeGenerationRow → RuntimeGenerationRow) : Except PersistenceError RegistryDb :=
  match (lookup (·.runtimeGenerationId) db.generations id).filter p with
  | none => .error (.revisionConflict "routing_runtime_generation")
  | some row =>
    let rows := put (·.runtimeGenerationId) (f row) db.generations
    if ¬ ((f row).checks ∧ legalStatusTransition row.status (f row).status) then
      .error .databaseFailed
    else if uniqueStatus rows .active ∧ uniqueStatus rows .cutoverFencing then
      .ok { db with generations := rows }
    else .error .constraintViolation

/-- `UPDATE routing_runtime_cutover_marker … WHERE …`, which must affect the row. -/
def updateMarker (db : RegistryDb) (p : RoutingGenerationMarker → Bool)
    (f : RoutingGenerationMarker → RoutingGenerationMarker) : Except PersistenceError RegistryDb :=
  if p db.marker then
    if (f db.marker).updatedAtMs < 0 ∨
        ¬ ((f db.marker).mode = .preCutover ↔ (f db.marker).activeRuntimeGenerationId = none)
    then .error .databaseFailed
    else .ok { db with marker := f db.marker }
  else .error (.revisionConflict "routing_runtime_cutover_marker")

def insertAudit (db : RegistryDb) (audit : TransitionAudit) : Except PersistenceError RegistryDb :=
  if 0 < audit.fenceRevision ∧ (audit.reasonCode.all (between 1 96)) ∧ 0 ≤ audit.createdAtMs
  then .ok { db with audits := db.audits ++ [audit] }
  else .error .databaseFailed

/-- Unicode general category Cc, which `char::is_control` tests. -/
def isControl (c : Char) : Bool := c.toNat < 0x20 ∨ 0x7f ≤ c.toNat ∧ c.toNat ≤ 0x9f

def validateReason (reason : Option String) (nowMs : Int) : Except PersistenceError Unit :=
  if nowMs < 0 ∨ (reason.any fun value =>
      value = "" ∨ 96 < value.utf8ByteSize ∨ value.toList.any isControl)
  then .error .constraintViolation
  else .ok ()

end RegistryDb

/-! ### Building -/

structure NewRoutingRuntimeGeneration where
  runtimeGenerationId : String
  policyGenerationId : String
  qualityGenerationId : String
  circuitGenerationId : String
  policyRevision : Nat
  qualityPolicyRevision : Nat
  circuitPolicyRevision : Nat
  algorithmVersion : String
  inputObservationWatermark : Nat
  inputCircuitEventWatermark : Nat
  policyInputHash : String
  qualityInputHash : String
  circuitInputHash : String
  policyContentHash : String
  qualityContentHash : String
  circuitContentHash : String
  checkpointRef : String
  policyCheckpointRef : String
  qualityCheckpointRef : String
  circuitCheckpointRef : String
  createdAtMs : Int
  deriving DecidableEq

/-- The row that the INSERT writes. -/
def NewRoutingRuntimeGeneration.row (generation : NewRoutingRuntimeGeneration) :
    RuntimeGenerationRow where
  runtimeGenerationId := generation.runtimeGenerationId
  policyGenerationId := generation.policyGenerationId
  qualityGenerationId := generation.qualityGenerationId
  circuitGenerationId := generation.circuitGenerationId
  policyRevision := generation.policyRevision
  qualityPolicyRevision := generation.qualityPolicyRevision
  circuitPolicyRevision := generation.circuitPolicyRevision
  algorithmVersion := generation.algorithmVersion
  status := .building
  inputObservationWatermark := generation.inputObservationWatermark
  inputCircuitEventWatermark := generation.inputCircuitEventWatermark
  policyInputHash := generation.policyInputHash
  qualityInputHash := generation.qualityInputHash
  circuitInputHash := generation.circuitInputHash
  policyContentHash := generation.policyContentHash
  qualityContentHash := generation.qualityContentHash
  circuitContentHash := generation.circuitContentHash
  checkpointRef := generation.checkpointRef
  policyCheckpointRef := generation.policyCheckpointRef
  qualityCheckpointRef := generation.qualityCheckpointRef
  circuitCheckpointRef := generation.circuitCheckpointRef
  cutoverFenceRevision := none
  createdAtMs := generation.createdAtMs
  readyAtMs := none
  activatedAtMs := none
  retiredAtMs := none
  failedAtMs := none
  failureCode := none
  updatedAtMs := generation.createdAtMs

namespace RegistryDb

def runtimeMatchesNew (existing : RuntimeGenerationRow)
    (generation : NewRoutingRuntimeGeneration) : Bool :=
  existing.runtimeGenerationId = generation.runtimeGenerationId ∧
    existing.policyGenerationId = generation.policyGenerationId ∧
    existing.qualityGenerationId = generation.qualityGenerationId ∧
    existing.circuitGenerationId = generation.circuitGenerationId ∧
    existing.policyRevision = generation.policyRevision ∧
    existing.qualityPolicyRevision = generation.qualityPolicyRevision ∧
    existing.circuitPolicyRevision = generation.circuitPolicyRevision ∧
    existing.algorithmVersion = generation.algorithmVersion ∧
    existing.inputObservationWatermark = generation.inputObservationWatermark ∧
    existing.inputCircuitEventWatermark = generation.inputCircuitEventWatermark ∧
    existing.policyInputHash = generation.policyInputHash ∧
    existing.qualityInputHash = generation.qualityInputHash ∧
    existing.circuitInputHash = generation.circuitInputHash ∧
    existing.policyContentHash = generation.policyContentHash ∧
    existing.qualityContentHash = generation.qualityContentHash ∧
    existing.circuitContentHash = generation.circuitContentHash ∧
    existing.checkpointRef = generation.checkpointRef

/-- The references and the unique key of an inserted row. -/
def insertable (db : RegistryDb) (row : RuntimeGenerationRow) : Bool :=
  (lookup (·.policyGenerationId) db.components.policies row.policyGenerationId).isSome ∧
    (lookup (·.generationId) db.components.quality row.qualityGenerationId).isSome ∧
    (lookup (·.generationId) db.components.circuit row.circuitGenerationId).isSome ∧
    ∀ other ∈ db.generations, ¬ (other.policyGenerationId = row.policyGenerationId ∧
      other.qualityGenerationId = row.qualityGenerationId ∧
      other.circuitGenerationId = row.circuitGenerationId)

def insertBuildingRuntimeGeneration (db : RegistryDb) (generation : NewRoutingRuntimeGeneration) :
    Except PersistenceError RegistryDb := do
  match ← db.loadRuntimeGeneration generation.runtimeGenerationId with
  | some existing =>
    if runtimeMatchesNew existing generation then return db
    else throw (corrupt "runtime generation identity collision")
  | none =>
    let _ ← toI64 generation.policyRevision
    let _ ← toI64 generation.qualityPolicyRevision
    let _ ← toI64 generation.circuitPolicyRevision
    let _ ← toI64 generation.inputObservationWatermark
    let _ ← toI64 generation.inputCircuitEventWatermark
    let row := generation.row
    if ¬ row.checks then throw .databaseFailed
    if db.insertable row
    then return { db with generations := db.generations ++ [row] }
    else throw .constraintViolation

def loadExisting (db : RegistryDb) (id : String) : Except PersistenceError RuntimeGenerationRow := do
  match ← db.loadRuntimeGeneration id with
  | some row => return row
  | none => throw .notFound

/-- `UPDATE routing_policy_v3_staged`, which must affect one row. -/
def updatePolicy (db : RegistryDb) (id : String) (p : StagedPolicyStatus → Bool)
    (status : StagedPolicyStatus) (nowMs : Int) : Except PersistenceError RegistryDb :=
  match (lookup (·.policyGenerationId) db.components.policies id).filter (p ·.status) with
  | none => .error (.revisionConflict "routing_policy_v3_staged")
  | some policy =>
    if nowMs < policy.createdAtMs then .error .databaseFailed
    else .ok { db with
      components := { db.components with
        policies := put (·.policyGenerationId) { policy with status, updatedAtMs := nowMs }
          db.components.policies } }

def markRuntimeGenerationReady (db : RegistryDb) (id : String) (nowMs : Int) :
    Except PersistenceError RegistryDb := do
  let generation ← db.loadExisting id
  db.validateComponentBindings generation
  let policied ←
    match lookup (·.policyGenerationId) db.components.policies generation.policyGenerationId with
    | none => throw .notFound
    | some policy =>
      -- the policy of a rebuild or a rollback keeps its status
      if policy.status = .active ∨ policy.status = .retired then pure db
      else db.updatePolicy policy.policyGenerationId (fun s => s = .staged ∨ s = .ready) .ready nowMs
  -- a generation that is ready already is not written again
  if generation.status = .ready then return policied
  policied.updateGeneration id (·.status = .building) fun row =>
    { row with status := .ready, readyAtMs := some nowMs, updatedAtMs := nowMs }

def markReadyGenerationStale (db : RegistryDb) (id : String) (nowMs : Int) :
    Except PersistenceError RegistryDb :=
  if id = "" ∨ nowMs < 0 then .error .constraintViolation
  else db.updateGeneration id (·.status = .ready) fun row =>
    { row with
      status := .failed
      failureCode := some "superseded_by_input_tail"
      failedAtMs := some nowMs
      updatedAtMs := nowMs }

/-! ### Fencing -/

def generationNotQualified : String := "routing_generation_not_qualified"

/-- The answer of `require_qualification`. -/
def requireQualification (qualified : Bool) : Except PersistenceError Unit :=
  if qualified then .ok () else .error (.invariantViolation generationNotQualified)

/-- The answer of `validate_no_tail_events`. -/
def validateNoTailEvents (tail : Bool) : Except PersistenceError Unit :=
  if tail then .error (.revisionConflict "routing_generation_tail_rebuild_required") else .ok ()

def beginFence (db : RegistryDb) (target : String) (expectedActive : Option String)
    (rollback : Bool) (reason : Option String) (qualified : Bool) (nowMs : Int) :
    Except PersistenceError (RoutingGenerationFence × RegistryDb) := do
  validateReason reason nowMs
  let snapshot ← db.loadRegistrySnapshot
  if snapshot.fencing.isSome ∨ snapshot.marker.activeRuntimeGenerationId ≠ expectedActive then
    throw (.revisionConflict "routing_runtime_generation")
  let generation ← db.loadExisting target
  let expectedStatus : RoutingGenerationStatus := if rollback then .retired else .ready
  if generation.status ≠ expectedStatus ∨ rollback ∧ expectedActive = none then
    throw (.revisionConflict "routing_runtime_generation")
  db.validateComponentBindings generation
  requireQualification qualified
  let revision := snapshot.marker.fenceRevision + 1
  let _ ← toI64 revision
  let fenced ← db.updateGeneration target (·.status = expectedStatus) fun row =>
    { row with
      status := .cutoverFencing
      cutoverFenceRevision := some revision
      updatedAtMs := nowMs }
  let marked ← fenced.updateMarker
    (fun marker => marker.fenceRevision = snapshot.marker.fenceRevision ∧
      marker.fencedRuntimeGenerationId = none)
    fun marker =>
      { marker with
        fencedRuntimeGenerationId := some target
        fenceRevision := revision
        updatedAtMs := nowMs }
  let audited ← marked.insertAudit {
    transitionKind := if rollback then .rollbackStarted else .cutoverStarted
    sourceRuntimeGenerationId := expectedActive
    targetRuntimeGenerationId := target
    fenceRevision := revision
    reasonCode := reason
    createdAtMs := nowMs }
  return (⟨expectedActive, target, revision⟩, audited)

/-- The checks of `retarget_fence`, before it writes anything. -/
def retargetable (db : RegistryDb) (fence : RoutingGenerationFence) (replacement : String)
    (tail qualified : Bool) (nowMs : Int) : Except PersistenceError Unit := do
  if replacement = "" ∨ replacement = fence.targetRuntimeGenerationId ∨ nowMs < 0 then
    throw .constraintViolation
  db.assertFence fence
  let generation ← db.loadExisting replacement
  if generation.status ≠ .ready then throw (.revisionConflict "routing_runtime_generation")
  db.validateComponentBindings generation
  validateNoTailEvents tail
  requireQualification qualified

def retargetFence (db : RegistryDb) (fence : RoutingGenerationFence) (replacement : String)
    (tail qualified : Bool) (nowMs : Int) :
    Except PersistenceError (RoutingGenerationFence × RegistryDb) := do
  db.retargetable fence replacement tail qualified nowMs
  let superseded ← db.updateGeneration fence.targetRuntimeGenerationId
    (fun row => row.status = .cutoverFencing ∧
      row.cutoverFenceRevision = some fence.fenceRevision)
    fun row =>
      { row with
        status := .failed
        failureCode := some "superseded_by_fence_tail"
        failedAtMs := some nowMs
        cutoverFenceRevision := none
        updatedAtMs := nowMs }
  let promoted ← superseded.updateGeneration replacement (·.status = .ready) fun row =>
    { row with
      status := .cutoverFencing
      cutoverFenceRevision := some fence.fenceRevision
      updatedAtMs := nowMs }
  let marked ← promoted.updateMarker
    (fun marker => marker.fencedRuntimeGenerationId = some fence.targetRuntimeGenerationId ∧
      marker.fenceRevision = fence.fenceRevision)
    fun marker => { marker with fencedRuntimeGenerationId := some replacement }
  return ({ fence with targetRuntimeGenerationId := replacement }, marked)

def insertTransitionAudit (db : RegistryDb) (kind : TransitionKind)
    (fence : RoutingGenerationFence) (reason : Option String) (nowMs : Int) :
    Except PersistenceError RegistryDb :=
  db.insertAudit {
    transitionKind := kind
    sourceRuntimeGenerationId := fence.sourceRuntimeGenerationId
    targetRuntimeGenerationId := fence.targetRuntimeGenerationId
    fenceRevision := fence.fenceRevision
    reasonCode := reason
    createdAtMs := nowMs }

/-- The fence that the marker must still hold for it to be cleared or crossed. -/
def holdsFence (fence : RoutingGenerationFence) (marker : RoutingGenerationMarker) : Bool :=
  marker.fencedRuntimeGenerationId = some fence.targetRuntimeGenerationId ∧
    marker.fenceRevision = fence.fenceRevision

def abortFence (db : RegistryDb) (fence : RoutingGenerationFence) (rollback : Bool)
    (reason : String) (nowMs : Int) : Except PersistenceError RegistryDb := do
  validateReason (some reason) nowMs
  db.assertFence fence
  let restored ← db.updateGeneration fence.targetRuntimeGenerationId
    (fun row => row.status = .cutoverFencing ∧
      row.cutoverFenceRevision = some fence.fenceRevision)
    fun row =>
      { row with
        status := if rollback then .retired else .ready
        cutoverFenceRevision := none
        updatedAtMs := nowMs }
  let cleared ← restored.updateMarker (holdsFence fence) fun marker =>
    { marker with fencedRuntimeGenerationId := none, updatedAtMs := nowMs }
  cleared.insertTransitionAudit .cutoverAborted fence (some reason) nowMs

/-! ### Activating -/

end RegistryDb

/-- What `activate_fenced_generation` reads outside the registry. -/
structure ActivationReads where
  tail : Bool
  /-- The answer of `replace_live_circuit_state`, where the live state is replaced. -/
  replaceLive : Except PersistenceError Unit

namespace RegistryDb

/-- `UPDATE` of the status of one component; what it says about the number of rows is up to
the caller. -/
def switchComponent (rows : List ComponentGeneration) (id : String) (p : ComponentStatus → Bool)
    (f : ComponentGeneration → ComponentGeneration) :
    Except PersistenceError (Option (List ComponentGeneration)) :=
  match (lookup (·.generationId) rows id).filter (p ·.status) with
  | none => .ok none
  | some component =>
    if (f component).updatedAtMs < component.createdAtMs ∨
        ((f component).activatedAtMs.any fun at' => at' < component.createdAtMs)
    then .error .databaseFailed
    else .ok (some (put (·.generationId) (f component) rows))

/-- The component of the source, if the target has another one, is retired when it is active. -/
def retireComponent (rows : List ComponentGeneration) (source target : String) (nowMs : Int) :
    Except PersistenceError (List ComponentGeneration) :=
  if source = target then .ok rows
  else do
    let switched ← switchComponent rows source (· = .active) fun component =>
      { component with status := .retired, updatedAtMs := nowMs }
    return switched.getD rows

def activateComponent (entity : String) (rows : List ComponentGeneration) (target : String)
    (nowMs : Int) : Except PersistenceError (List ComponentGeneration) := do
  let switched ← switchComponent rows target
    (fun status => status = .ready ∨ status = .active ∨ status = .retired) fun component =>
      { component with
        status := .active
        activatedAtMs := some (component.activatedAtMs.getD nowMs)
        updatedAtMs := nowMs }
  match switched with
  | some rows => return rows
  | none => throw (.revisionConflict entity)

def withQuality (db : RegistryDb) (quality : List ComponentGeneration) : RegistryDb :=
  { db with components := { db.components with quality } }

def withCircuit (db : RegistryDb) (circuit : List ComponentGeneration) : RegistryDb :=
  { db with components := { db.components with circuit } }

/-- What is retired of the source of the fence. -/
def retireSource (db : RegistryDb) (source : String) (target : RuntimeGenerationRow)
    (nowMs : Int) : Except PersistenceError RegistryDb := do
  match ← db.loadRuntimeGeneration source with
  | none => throw (corrupt "source generation disappeared during cutover")
  | some source =>
    let db ← if source.policyGenerationId ≠ target.policyGenerationId
      then db.updatePolicy source.policyGenerationId (· = .active) .retired nowMs
      else pure db
    let quality ← retireComponent db.components.quality source.qualityGenerationId
      target.qualityGenerationId nowMs
    let circuit ← retireComponent db.components.circuit source.circuitGenerationId
      target.circuitGenerationId nowMs
    return (db.withQuality quality).withCircuit circuit

def switchComponentStatuses (db : RegistryDb) (fence : RoutingGenerationFence)
    (target : RuntimeGenerationRow) (nowMs : Int) : Except PersistenceError RegistryDb := do
  let db ← match fence.sourceRuntimeGenerationId with
    | some source => db.retireSource source target nowMs
    | none => pure db
  let db ← db.updatePolicy target.policyGenerationId
    (fun status => status = .ready ∨ status = .active ∨ status = .retired) .active nowMs
  let quality ← activateComponent "routing_quality_generation_v3" db.components.quality
    target.qualityGenerationId nowMs
  let circuit ← activateComponent "routing_circuit_generation_v3" db.components.circuit
    target.circuitGenerationId nowMs
  return (db.withQuality quality).withCircuit circuit

/-- The source of the fence, if it has one, gives way. -/
def retireActive (db : RegistryDb) (source : Option String) (nowMs : Int) :
    Except PersistenceError RegistryDb :=
  match source with
  | none => .ok db
  | some source => db.updateGeneration source (·.status = .active) fun row =>
      { row with status := .retired, retiredAtMs := some nowMs, updatedAtMs := nowMs }

/-- A generation with the circuit component of the source keeps the live state. -/
def reusesLiveCircuitState (db : RegistryDb) (preserve : Bool) (source : Option String)
    (target : RuntimeGenerationRow) : Except PersistenceError Bool :=
  match preserve, source with
  | true, some source => do
    match ← db.loadRuntimeGeneration source with
    | none => throw (corrupt "source generation disappeared during cutover")
    | some source => return source.circuitGenerationId = target.circuitGenerationId
  | _, _ => .ok false

def activateFencedGeneration (db : RegistryDb) (fence : RoutingGenerationFence)
    (rollback : Bool) (preserveLiveCircuitState : Bool) (reads : ActivationReads) (nowMs : Int) :
    Except PersistenceError RegistryDb := do
  if nowMs < 0 then throw .constraintViolation
  db.assertFence fence
  let target ← db.loadExisting fence.targetRuntimeGenerationId
  db.validateComponentBindings target
  validateNoTailEvents reads.tail
  let retired ← db.retireActive fence.sourceRuntimeGenerationId nowMs
  let activated ← retired.updateGeneration fence.targetRuntimeGenerationId
    (fun row => row.status = .cutoverFencing ∧
      row.cutoverFenceRevision = some fence.fenceRevision)
    fun row =>
      { row with
        status := .active
        activatedAtMs := some nowMs
        retiredAtMs := none
        updatedAtMs := nowMs }
  let switched ← activated.switchComponentStatuses fence target nowMs
  let reuse ← switched.reusesLiveCircuitState preserveLiveCircuitState
    fence.sourceRuntimeGenerationId target
  if reuse then pure () else reads.replaceLive
  let marked ← switched.updateMarker (holdsFence fence) fun marker =>
    { marker with
      mode := .v3Active
      activeRuntimeGenerationId := some fence.targetRuntimeGenerationId
      fencedRuntimeGenerationId := none
      updatedAtMs := nowMs }
  marked.insertTransitionAudit (if rollback then .rollbackActivated else .cutoverActivated) fence
    none nowMs

end RegistryDb

end RelayPool.Cutover
