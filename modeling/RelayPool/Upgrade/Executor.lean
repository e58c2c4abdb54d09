import RelayPool.Fallible
import RelayPool.Plans
import RelayPool.Upgrade.Planner

/-! The steps of a startup upgrade.

A step changes what the next probe will read. The migrations are taken to do their
work, the files of a conversion to be as its journal left them and the secrets to
belong to the key; what remains are the refusals that go by the schema: an upgrade
begins only at the schema it knows, and the conversion of the secrets only at the
structural or at the encrypted baseline. -/
namespace RelayPool.Upgrade
open FirstRun (trimmed)

/-! ### Databases -/

/-- The latest schema of the migrations, which know the encrypted baseline. -/
structure SchemaRegistry where
  latest : Int
  baseline : encryptedSecretBaselineSchemaVersion ≤ latest

/-- The name of the active key, without blanks around it. -/
structure DeviceKeyId where
  name : String
  trimmed_name : trimmed name = some name

inductive StartupJournal
  | missing
  | baselineConversion
  | invalid
deriving DecidableEq, Repr

/-- What a database says of itself, and the journal beside it. -/
structure StartupDatabase where
  compatibilitySchemaVersion : Int
  sqlMigrationVersion : Int
  secretFormatVersion : Option String
  activeKeyId : Option String
  journal : StartupJournal
  sanitizerStatus : Option String
  remainingRows : Nat
  alertingUpgradeComplete : Bool
  quickCheckPassed : Bool
deriving DecidableEq, Repr

namespace StartupDatabase
variable (registry : SchemaRegistry) (key : DeviceKeyId) (db : StartupDatabase)

/-! ### The probe -/

def readSecretFormat : SecretFormatProbe :=
  match db.secretFormatVersion with
  | some value =>
    if value = "1" then .encryptedBaseline
    else if value = "0" then .legacy
    else .invalidMetadata
  | none =>
    if encryptedSecretBaselineSchemaVersion ≤ db.compatibilitySchemaVersion then .encryptedBaseline
    else .legacy

def readKeyRequirement : StartupKeyRequirementProbe :=
  if db.readSecretFormat ≠ .encryptedBaseline then .legacyFormat
  else
    match db.activeKeyId.bind trimmed, trimmed key.name with
    | some persisted, some system =>
      if persisted = system then .verified persisted system else .mismatchedKeyId persisted system
    | some persisted, none => .missingSystemKeyId persisted
    | none, system => .missingPersistedKeyId system

def readJournalProbe : StartupJournalProbe :=
  match db.journal with
  | .missing => .missing
  | .baselineConversion => .baselineConversion
  | .invalid => .invalid

def probeRequestLogUrlSanitizer : RequestLogUrlSanitizerProbe :=
  match db.sanitizerStatus with
  | none => .missing
  | some status =>
    if status = "pending" then .pending db.remainingRows
    else if status = "running" then .running db.remainingRows
    else if status = "complete" ∧ db.remainingRows = 0 then .complete
    else .invalid

def probeUpgradeState : StartupUpgradeProbe where
  compatibilitySchemaVersion := db.compatibilitySchemaVersion
  sqlMigrationVersion := db.sqlMigrationVersion
  latestSqlMigrationVersion := registry.latest
  secretFormat := db.readSecretFormat
  keyRequirement := db.readKeyRequirement key
  journal := db.readJournalProbe
  requestLogUrlSanitizer := db.probeRequestLogUrlSanitizer
  sqliteQuickCheckPassed := db.quickCheckPassed

end StartupDatabase

/-! ### Migrations -/

inductive PersistenceError
  | incompatibleSchema
  | invariantViolation (message : String)
  | database
deriving DecidableEq, Repr

inductive OpenMode
  | writable
  | inspectionOnly
deriving DecidableEq, Repr

namespace StartupDatabase
variable (registry : SchemaRegistry) (key : DeviceKeyId) (db : StartupDatabase)

/-- How an app that writes one schema opens a database. -/
def decideOpenMode (writableSchema : Int) : Except PersistenceError OpenMode :=
  if db.compatibilitySchemaVersion ≠ db.sqlMigrationVersion ∨
      ¬ (1 ≤ db.compatibilitySchemaVersion ∧ db.compatibilitySchemaVersion ≤ registry.latest) then
    .error .incompatibleSchema
  else if db.compatibilitySchemaVersion ≠ writableSchema then .ok .inspectionOnly
  else .ok .writable

/-- The migrations up to a schema. That of the secrets leaves the recorded schema to the
conversion; the one after it makes the progress of the cleanup. -/
def migrate (target : Int) : StartupDatabase :=
  if target ≤ db.sqlMigrationVersion then db
  else { db with
    compatibilitySchemaVersion :=
      if target = encryptedSecretBaselineSchemaVersion then preBaselineSchemaVersion else target
    sqlMigrationVersion := target
    sanitizerStatus :=
      if db.sqlMigrationVersion < 18 ∧ 18 ≤ target then some (db.sanitizerStatus.getD "pending")
      else db.sanitizerStatus }

/-- All rows are cleaned; where the progress is not kept yet, nothing is. -/
def sanitizeRequestLogUpstreamUrls : Except PersistenceError StartupDatabase :=
  if db.sqlMigrationVersion < 18 then .error .database
  else .ok { db with sanitizerStatus := some "complete", remainingRows := 0 }

def upgradeExistingV2Database : Except PersistenceError StartupDatabase := do
  let mode ← db.decideOpenMode registry registry.latest
  if mode = .writable then
    if 18 ≤ db.sqlMigrationVersion then db.sanitizeRequestLogUpstreamUrls else pure db
  else if registry.latest ≤ db.sqlMigrationVersion then
    throw <| .invariantViolation "generation 2 schema is not eligible for an in-place upgrade"
  else
    let cleaned :=
      if 5 ≤ db.sqlMigrationVersion ∧ db.sqlMigrationVersion < 18 then { db with remainingRows := 0 }
      else db
    let migrated ← (cleaned.migrate registry.latest).sanitizeRequestLogUpstreamUrls
    let mode ← migrated.decideOpenMode registry registry.latest
    if mode = .writable then pure migrated
    else throw (.invariantViolation
      "generation 2 schema upgrade did not produce a writable database")

def upgradeExistingV2DatabaseToSchema (targetSchema : Int) :
    Except PersistenceError StartupDatabase := do
  if registry.latest ≤ targetSchema then db.upgradeExistingV2Database registry
  else
    let mode ← db.decideOpenMode registry registry.latest
    if targetSchema ≤ db.compatibilitySchemaVersion ∧ targetSchema ≤ db.sqlMigrationVersion then
      pure db
    else if targetSchema < db.compatibilitySchemaVersion ∨
        db.sqlMigrationVersion ≠ db.compatibilitySchemaVersion ∨ mode = .writable then
      throw <| .invariantViolation "generation 2 schema is not eligible for a bounded upgrade"
    else
      let migrated := db.migrate targetSchema
      if migrated.compatibilitySchemaVersion ≠ targetSchema ∨
          migrated.sqlMigrationVersion ≠ targetSchema then
        throw <| .invariantViolation "bounded schema upgrade did not reach the requested target"
      else pure migrated

/-! ### The secrets -/

/-- The candidate that takes the place of the database: its secrets are under the key. -/
def convert : StartupDatabase :=
  { db with
    compatibilitySchemaVersion := encryptedSecretBaselineSchemaVersion
    sqlMigrationVersion := max db.sqlMigrationVersion encryptedSecretBaselineSchemaVersion
    secretFormatVersion := some "1"
    activeKeyId := some key.name
    journal := .missing }

inductive BaselinePreconditionState
  | structuralPreBaseline
  | encryptedBaseline
  | invalid (schemaVersion : Int)
deriving DecidableEq, Repr

def baselinePreconditionState : BaselinePreconditionState :=
  if db.compatibilitySchemaVersion = encryptedSecretBaselineSchemaVersion then .encryptedBaseline
  else if db.compatibilitySchemaVersion = preBaselineSchemaVersion then .structuralPreBaseline
  else .invalid db.compatibilitySchemaVersion

def ensureActiveDatabaseBaseline : Except String StartupDatabase :=
  match db.journal, db.baselinePreconditionState with
  | .invalid, _ => .error <|
    "persistence recovery journal is invalid; encrypted-secret baseline conversion requires " ++
      "manual recovery"
  | .missing, .encryptedBaseline => .ok db
  | .missing, .structuralPreBaseline => .ok (db.convert key)
  | .missing, .invalid schemaVersion => .error <|
    "encrypted-secret baseline requires compatibility schema 16 or 17, found " ++
      toString schemaVersion
  | .baselineConversion, .encryptedBaseline => .ok { db with journal := .missing }
  | .baselineConversion, .structuralPreBaseline => .ok (db.convert key)
  | .baselineConversion, .invalid schemaVersion => .error <|
    "baseline conversion journal is active but compatibility schema " ++
      toString schemaVersion ++ " does not satisfy the local baseline precondition"

def recordSuccessfulStartupMetadata : StartupDatabase :=
  { db with secretFormatVersion := some "1", activeKeyId := some key.name }

end StartupDatabase

/-! ### Steps -/

/-- The database, and how the runtime has opened it. -/
structure StartupUpgrade where
  database : StartupDatabase
  runtime : Option OpenMode := none
deriving DecidableEq, Repr

namespace StartupUpgrade
variable (registry : SchemaRegistry) (key : DeviceKeyId) (s : StartupUpgrade)

def onDatabase (reason : RecoveryReason) (message : String) {ε : Type}
    (changed : Except ε StartupDatabase) : Except StartupUpgradeError StartupUpgrade :=
  match changed with
  | .ok database => .ok { s with database }
  | .error _ => .error ⟨reason, message⟩

def openCurrent : Except PersistenceError OpenMode := do
  let mode ← s.database.decideOpenMode registry registry.latest
  if 18 ≤ s.database.sqlMigrationVersion ∧ ¬ (s.database.remainingRows = 0 ∧
      s.database.sanitizerStatus = some "complete") then
    throw <| .invariantViolation "request log upstream URL sanitizer is incomplete"
  else pure mode

/-- The alerting runtime writes the schema of its foundation alone. -/
def runDurableUpgrade : Except StartupUpgradeError StartupUpgrade :=
  match s.database.decideOpenMode registry alertingFoundationSchemaVersion with
  | .error _ => .error ⟨.alertingUpgradeFailed, "failed to open alerting upgrade runtime: "⟩
  | .ok mode =>
    if s.database.alertingUpgradeComplete then .ok s
    else if mode = .writable then
      .ok { s with database := { s.database with alertingUpgradeComplete := true } }
    else .error ⟨.alertingUpgradeFailed,
      "durable alerting upgrade failed (alerting_upgrade_persistence_failed): "⟩

def step : StartupUpgradeStep → Except StartupUpgradeError StartupUpgrade
  | .ensureStructuralPreBaseline =>
    s.onDatabase .schemaMigrationFailed
      "failed to migrate generation 2 database to structural baseline: "
      (s.database.upgradeExistingV2DatabaseToSchema registry preBaselineSchemaVersion)
  | .ensureSecretBaseline =>
    s.onDatabase
      (if s.database.journal = .missing then .secretBaselineFailed else .interruptedUpgrade)
      "encrypted-secret baseline conversion failed: "
      (s.database.ensureActiveDatabaseBaseline key)
  | .ensureSchema targetSchema =>
    s.onDatabase .schemaMigrationFailed
      ("failed to migrate generation 2 database to schema " ++ toString targetSchema ++ ": ")
      (s.database.upgradeExistingV2DatabaseToSchema registry targetSchema)
  | .ensureAlertingUpgrade => s.runDurableUpgrade registry
  | .ensureLegacyChangeEventsRemoval =>
    s.onDatabase .schemaMigrationFailed
      "failed to apply destructive legacy change-events migration: "
      (s.database.upgradeExistingV2Database registry)
  | .ensureRequestLogSanitizer =>
    s.onDatabase .schemaMigrationFailed
      "failed to complete request-log URL sanitizer maintenance: "
      s.database.sanitizeRequestLogUpstreamUrls
  | .openRuntime =>
    match s.openCurrent registry with
    | .ok mode => .ok { s with runtime := some mode }
    | .error _ => .error ⟨.corruptedDatabase, "failed to open generation 2 database: "⟩
  | .stageRoutingPolicyV3 =>
    match s.runtime with
    | some _ => .ok s
    | none => .error ⟨.internalUpgradeError,
      "startup plan tried to stage routing policy before opening runtime"⟩
  | .verifyWritableRuntime =>
    match s.runtime with
    | some .writable => .ok s
    | some .inspectionOnly => .error ⟨.inconsistentSchemaMetadata,
      "generation 2 database did not reach writable mode after planned upgrades"⟩
    | none => .error ⟨.internalUpgradeError,
      "startup plan tried to verify runtime before opening it"⟩
  | .verifySecrets => .ok s

end StartupUpgrade

def executeStartupUpgradePlan (registry : SchemaRegistry) (key : DeviceKeyId)
    (steps : List StartupUpgradeStep) (db : StartupDatabase) :
    Except StartupUpgradeError StartupDatabase := do
  validateStartupUpgradeSteps steps
  let s ← Plans.execute (StartupUpgrade.step registry key) ⟨db, none⟩ steps
  if s.runtime.isNone then throw (⟨.internalUpgradeError,
    "startup plan completed without opening a runtime"⟩ : StartupUpgradeError)
  pure (s.database.recordSuccessfulStartupMetadata key)

end RelayPool.Upgrade
