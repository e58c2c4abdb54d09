import RelayPool.FirstRun.Keys

/-! Startup of an installation.

The decision is taken from the files before the journal is looked at: no database and no
trace of one is a first run, a healthy database is ready. A first run creates the key and
then the database under it; only then does the pointer name the key. A startup that finds
a database loads the key that the pointer names.

Left out are an activation of a portable migration (its journal stops a first run), a
relocation, and what the upgrade plan asks of the schema: a database published by a first
run is at the baseline, from which every step of the plan can be taken again. -/
namespace RelayPool.FirstRun
open Crash

/-! ### The decision -/

inductive RecoveryReason
  | missing
  | unreadable
  | invalidSqlite
  | integrityFailed
  | openOrMigrationFailed
  | missingKey
  | keyMismatch
  | interruptedUpgrade
  | schemaMigrationFailed
  | internalUpgradeError
  | inconsistentSchemaMetadata
  | pendingRelocation
  | systemCredentialMissing
  | systemCredentialUnavailable
  | systemCredentialPermissionDenied
  | systemCredentialCorrupt
  | systemCredentialUnsupported
  | systemCredentialInternal
deriving DecidableEq, Repr

inductive CandidateHealth
  | healthy
  | missing
  | unreadable
  | invalidSqlite
  | integrityFailed
deriving DecidableEq, Repr

inductive CandidateRole
  | active
  | default
deriving DecidableEq, Repr

inductive StartupDecision
  | ready (candidateId : String)
  | firstRun (defaultDataDir : String)
  | needsRecovery (reason : RecoveryReason)
  | conflict (candidateIds : List String)
deriving DecidableEq, Repr

structure CandidateFacts where
  id : String
  role : CandidateRole
  health : CandidateHealth
  containsRelayPoolSchema : Bool
  schemaCompatible : Bool
deriving DecidableEq, Repr

structure DecisionInput where
  initialized : Bool
  active : Option CandidateFacts
  candidates : List CandidateFacts
  pendingRelocation : Bool
  defaultDataDir : String

def candidateIsReady (candidate : CandidateFacts) : Bool :=
  candidate.health = .healthy && candidate.containsRelayPoolSchema && candidate.schemaCompatible

def protectedHealthyCandidates (candidates : List CandidateFacts) : List String :=
  (candidates.filter candidateIsReady).map (·.id)

def recoveryReasonForHealth : CandidateHealth → RecoveryReason
  | .healthy => .openOrMigrationFailed
  | .missing => .missing
  | .unreadable => .unreadable
  | .invalidSqlite => .invalidSqlite
  | .integrityFailed => .integrityFailed

def decideStartup (input : DecisionInput) : StartupDecision :=
  if input.pendingRelocation then .needsRecovery .pendingRelocation
  else
    let healthy := protectedHealthyCandidates input.candidates
    if healthy.length > 1 then .conflict healthy
    else
      match input.active with
      | some active =>
        if candidateIsReady active then .ready active.id
        else .needsRecovery (recoveryReasonForHealth active.health)
      | none =>
        if !input.initialized && input.candidates.isEmpty then .firstRun input.defaultDataDir
        else
          match healthy with
          | [candidateId] => .ready candidateId
          | _ => .needsRecovery <|
            (input.candidates.find? (·.health ≠ .healthy)).elim .missing
              fun candidate => recoveryReasonForHealth candidate.health

structure DataStoreStartupState where
  decision : StartupDecision
  candidates : List CandidateFacts
  defaultDataDir : String
deriving DecidableEq, Repr

def DataStoreStartupState.enterRecovery (state : DataStoreStartupState) (reason : RecoveryReason) :
    DataStoreStartupState :=
  { state with decision := .needsRecovery reason }

namespace Disk

/-- A database is published whole, so it is healthy. -/
def inspectCandidate (disk : Disk) (id : String) (role : CandidateRole) : CandidateFacts where
  id := id
  role := role
  health := if disk.database.isSome then .healthy else .missing
  containsRelayPoolSchema := disk.database.isSome
  schemaCompatible := disk.database.isSome

def includeCandidate (candidate : CandidateFacts) : Bool :=
  candidate.health ≠ .missing || candidate.role = .active

/-- Of the candidates only the active or default one can exist: the config of a first run
names no other directory, and there is no backup yet. -/
def inspectStartup (disk : Disk) (defaultDataDir : String) : DataStoreStartupState :=
  let initialized := disk.configured || disk.installationMarker
  let path := defaultDataDir ++ "/relay-pool-desktop-v2.sqlite3"
  let inspected :=
    if initialized then disk.inspectCandidate ("Active:" ++ path) .active
    else disk.inspectCandidate ("Default:" ++ path) .default
  let candidates := [inspected].filter includeCandidate
  { decision := decideStartup {
      initialized := initialized
      active := if initialized then some inspected else none
      candidates := candidates
      pendingRelocation := false
      defaultDataDir := defaultDataDir }
    candidates := candidates
    defaultDataDir := defaultDataDir }

def startupHasRecoveryEvidence (disk : Disk) (state : DataStoreStartupState) : Bool :=
  !state.candidates.isEmpty || disk.baselineConversionJournal || disk.portableActivationJournal

end Disk

/-! ### The key of a startup -/

def recoveryReasonForDeviceKeyError : DeviceKeyErrorKind → RecoveryReason
  | .notFound => .systemCredentialMissing
  | .unavailable => .systemCredentialUnavailable
  | .permissionDenied => .systemCredentialPermissionDenied
  | .corrupt => .systemCredentialCorrupt
  | .unsupported => .systemCredentialUnsupported
  | .internal => .systemCredentialInternal

def recoveryReasonForExistingDatabaseDeviceKeyError : DeviceKeyErrorKind → RecoveryReason
  | .notFound => .missingKey
  | other => recoveryReasonForDeviceKeyError other

/-- The key in use, under the name by which the database knows it. -/
structure SecretManager where
  activeKeyId : String
  material : KeyMaterial
deriving DecidableEq, Repr

structure StartupSecretMaterial where
  manager : Option SecretManager
  firstRunKeyId : Option String
  startupState : DataStoreStartupState
deriving DecidableEq, Repr

structure Installation where
  format : KeyIdFormat
  defaultDataDir : String

def Installation.loadExisting (installation : Installation) (store : CredentialStore) :
    Except DeviceKeyErrorKind SecretManager :=
  (installation.format.loadActiveOrLegacy store).map fun key =>
    ⟨key.id.getD legacyDeviceKeyId, key.material⟩

/-- The identity and the key that a startup would draw for a new device key. -/
structure StartupEnv (installation : Installation) where
  keyId : String
  material : KeyMaterial

namespace StartupEnv
variable {installation : Installation} (env : StartupEnv installation)

def createPendingForFirstRun (keyId : String) :
    Program Disk (Except DeviceKeyErrorKind SecretManager) := do
  let pending ← installation.format.createPending keyId env.material
  return pending.map fun pending => ⟨pending.id, pending.material⟩

def initializeSecretMaterialForStartup (state : DataStoreStartupState) :
    Program Disk StartupSecretMaterial := do
  let disk ← get
  match state.decision with
  | .firstRun _ =>
    if disk.startupHasRecoveryEvidence state then
      return ⟨none, none, state.enterRecovery .systemCredentialMissing⟩
    else
      let planned := DeviceKeyJournal.new .planned env.keyId
        ("first-run:" ++ installation.defaultDataDir)
      writeJournal planned
      match ← env.createPendingForFirstRun env.keyId with
      | .ok manager =>
        writeJournal (planned.advance .keyCreated)
        return ⟨some manager, some env.keyId, state⟩
      | .error kind =>
        return ⟨none, none, state.enterRecovery (recoveryReasonForDeviceKeyError kind)⟩
  | .ready _ =>
    match installation.loadExisting disk.credentials with
    | .ok manager => return ⟨some manager, none, state⟩
    | .error kind =>
      return ⟨none, none,
        state.enterRecovery (recoveryReasonForExistingDatabaseDeviceKeyError kind)⟩
  | .needsRecovery _ | .conflict _ =>
    match installation.loadExisting disk.credentials with
    | .ok manager => return ⟨some manager, none, state⟩
    | .error kind =>
      let reason :=
        if disk.startupHasRecoveryEvidence state then
          recoveryReasonForExistingDatabaseDeviceKeyError kind
        else recoveryReasonForDeviceKeyError kind
      return ⟨none, none, state.enterRecovery reason⟩

/-! ### The database of a startup -/

inductive PreparedDataStore
  | ready (startupState : DataStoreStartupState)
  | recovery (startupState : DataStoreStartupState)
deriving DecidableEq, Repr

def validateDatabaseSecrets (database : Database) (manager : SecretManager) : Bool :=
  database.secrets.all (· = manager.material)

inductive StartupKeyRequirementProbe
  | verified (persistedKeyId systemKeyId : String)
  | missingPersistedKeyId (systemKeyId : Option String)
  | missingSystemKeyId (persistedKeyId : String)
  | mismatchedKeyId (persistedKeyId systemKeyId : String)
deriving DecidableEq, Repr

def readKeyRequirement (database : Database) (systemActiveKeyId : String) :
    StartupKeyRequirementProbe :=
  match trimmed database.activeKeyId, trimmed systemActiveKeyId with
  | some persisted, some system =>
    if persisted = system then .verified persisted system else .mismatchedKeyId persisted system
  | some persisted, none => .missingSystemKeyId persisted
  | none, system => .missingPersistedKeyId system

/-- The part of the upgrade plan that concerns the key. -/
def planUpgrade : StartupKeyRequirementProbe → Except RecoveryReason Unit
  | .verified .. => .ok ()
  | .missingSystemKeyId _ => .error .missingKey
  | .mismatchedKeyId .. => .error .keyMismatch
  | .missingPersistedKeyId _ => .error .inconsistentSchemaMetadata

/-- The plan ends with the secrets; the identity of the key is recorded after it. -/
def openAndValidateV2 (manager : SecretManager) : Program Disk (Except RecoveryReason Unit) := do
  let disk ← get
  match disk.database with
  | none => return .error .schemaMigrationFailed
  | some database =>
    if validateDatabaseSecrets database manager = false then
      return .error .keyMismatch
    else
      write fun disk => { disk with
        database := disk.database.map ({ · with activeKeyId := manager.activeKeyId }) }
      return .ok ()

/-- Staging is at the published database's side, so that publication is a rename. -/
def prepareFreshInstall (manager : SecretManager) : Program Disk (Except RecoveryReason Unit) := do
  write fun disk => { disk with staging := none }
  let fresh : Database := ⟨manager.activeKeyId, [], manager.material⟩
  write fun disk => { disk with staging := some fresh }
  if validateDatabaseSecrets fresh manager = false then
    return .error .internalUpgradeError
  else
    write fun disk => { disk with staging := none, database := disk.staging }
    write fun disk => { disk with configured := true }
    write fun disk => { disk with installationMarker := true }
    openAndValidateV2 manager

def prepareGenerationTwo (manager : SecretManager) (selected : Bool) :
    Program Disk (Except RecoveryReason Unit) := do
  if selected then
    openAndValidateV2 manager
  else
    let disk ← get
    if disk.database.isSome then
      return .error .interruptedUpgrade
    else
      prepareFreshInstall manager

def prepareDataStore (state : DataStoreStartupState) (manager : SecretManager) :
    Program Disk PreparedDataStore := do
  match state.decision with
  | .needsRecovery _ | .conflict _ => return .recovery state
  | .ready candidateId =>
    let disk ← get
    match state.candidates.find? (·.id = candidateId), disk.database with
    | some _, some database =>
      match planUpgrade (readKeyRequirement database manager.activeKeyId) with
      | .error reason => return .recovery (state.enterRecovery reason)
      | .ok () => finish state (← prepareGenerationTwo manager true)
    | _, _ => return .recovery (state.enterRecovery .missing)
  | .firstRun _ => finish state (← prepareGenerationTwo manager false)
where
  finish (state : DataStoreStartupState) :
      Except RecoveryReason Unit → Program Disk PreparedDataStore
    | .error reason => return .recovery (state.enterRecovery reason)
    | .ok () => do
      let disk ← get
      let readyState := disk.inspectStartup state.defaultDataDir
      match readyState.decision with
      | .ready _ => return .ready readyState
      | _ => return .recovery (readyState.enterRecovery .inconsistentSchemaMetadata)

/-! ### The startup -/

def markFirstRunDatabaseValidated : Program Disk (Option DeviceKeyJournal) := do
  match ← readJournal with
  | none => return none
  | some journal =>
    let databaseValidated := journal.advance .databaseValidated
    writeJournal databaseValidated
    return some databaseValidated

def markFirstRunActiveCommitted (journal : DeviceKeyJournal) : Program Disk Unit := do
  let activeCommitted := journal.advance .activeCommitted
  writeJournal activeCommitted
  writeJournal (activeCommitted.advance .completed)
  removeJournal

inductive StartupOutcome
  | ready (manager : SecretManager)
  | recovery (decision : StartupDecision)
deriving DecidableEq, Repr

/-- The end of `setup`: a first run's key becomes the active one. -/
def commitFirstRunKey (installation : Installation) (manager : SecretManager) :
    Program Disk (Except DeviceKeyErrorKind Unit) := do
  let validated ← markFirstRunDatabaseValidated
  match ← installation.format.commitActive manager.activeKeyId with
  | .error kind => return .error kind
  | .ok () =>
    match validated with
    | none => return .ok ()
    | some journal =>
      markFirstRunActiveCommitted journal
      return .ok ()

def setup : Program Disk StartupOutcome := do
  let disk ← get
  let state := disk.inspectStartup installation.defaultDataDir
  let material ← env.initializeSecretMaterialForStartup state
  match material.manager with
  | none => return .recovery material.startupState.decision
  | some manager =>
    match ← prepareDataStore material.startupState manager with
    | .recovery state => return .recovery state.decision
    | .ready _ =>
      match material.firstRunKeyId with
      | none => return .ready manager
      | some _ =>
        match ← commitFirstRunKey installation manager with
        | .error _ => return .recovery (.needsRecovery .systemCredentialInternal)
        | .ok () => return .ready manager

end StartupEnv

end RelayPool.FirstRun
