import RelayPool.FirstRun.Keys

/-! The plan of a startup upgrade.

A probe reads what a database records of itself: the schema, the format of its secrets
and their key, an unfinished conversion, the progress of a cleanup. The planner refuses
a probe that contradicts itself and orders the steps for any other; the executor checks
the order again before it takes the first step, and accepts every order the planner
makes (`validate_plannedSteps`). -/
namespace RelayPool.Upgrade

def minimumAutomaticSchemaBaseline : Int := 15

def preBaselineSchemaVersion : Int := 16

def encryptedSecretBaselineSchemaVersion : Int := 17

def alertingFoundationSchemaVersion : Int := 29

/-! ### Probes -/

inductive SecretFormatProbe
  | legacy
  | encryptedBaseline
  | invalidMetadata
deriving DecidableEq, Repr

inductive StartupKeyRequirementProbe
  | legacyFormat
  | verified (persistedKeyId systemKeyId : String)
  | missingPersistedKeyId (systemKeyId : Option String)
  | missingSystemKeyId (persistedKeyId : String)
  | mismatchedKeyId (persistedKeyId systemKeyId : String)
deriving DecidableEq, Repr

inductive StartupJournalProbe
  | missing
  | baselineConversion
  | invalid
  | notChecked
deriving DecidableEq, Repr

inductive RequestLogUrlSanitizerProbe
  | missing
  | pending (remainingRows : Nat)
  | running (remainingRows : Nat)
  | complete
  | invalid
deriving DecidableEq, Repr

structure StartupUpgradeProbe where
  compatibilitySchemaVersion : Int
  sqlMigrationVersion : Int
  latestSqlMigrationVersion : Int
  secretFormat : SecretFormatProbe
  keyRequirement : StartupKeyRequirementProbe
  journal : StartupJournalProbe
  requestLogUrlSanitizer : RequestLogUrlSanitizerProbe
  sqliteQuickCheckPassed : Bool
deriving DecidableEq, Repr

/-! ### Plans -/

inductive StartupUpgradeRecovery
  | unsupportedVersion
  | inconsistentVersionMetadata
  | corruptedDatabase
  | interruptedUpgrade
  | missingKey
  | keyMismatch
deriving DecidableEq, Repr

inductive StartupUpgradeStep
  | ensureStructuralPreBaseline
  | ensureSecretBaseline
  | ensureSchema (targetSchema : Int)
  | ensureAlertingUpgrade
  | ensureLegacyChangeEventsRemoval
  | ensureRequestLogSanitizer
  | openRuntime
  | stageRoutingPolicyV3
  | verifyWritableRuntime
  | verifySecrets
deriving DecidableEq, Repr

inductive StartupUpgradePlan
  | execute (steps : List StartupUpgradeStep)
  | needsRecovery (recovery : StartupUpgradeRecovery)
deriving DecidableEq, Repr

namespace StartupUpgradeProbe
variable (probe : StartupUpgradeProbe)

/-- Why a probe is not planned for, if it is not. -/
def recovery : Option StartupUpgradeRecovery :=
  let compatibilitySchema := probe.compatibilitySchemaVersion
  let sqlSchema := probe.sqlMigrationVersion
  if !probe.sqliteQuickCheckPassed then some .corruptedDatabase
  else if probe.journal = .invalid then some .interruptedUpgrade
  else if probe.requestLogUrlSanitizer = .invalid then some .interruptedUpgrade
  else if compatibilitySchema < minimumAutomaticSchemaBaseline then some .unsupportedVersion
  else if probe.latestSqlMigrationVersion < compatibilitySchema ∨ sqlSchema < compatibilitySchema then
    some .inconsistentVersionMetadata
  else if probe.secretFormat = .invalidMetadata ∨
      (probe.secretFormat = .encryptedBaseline ∧
        compatibilitySchema < encryptedSecretBaselineSchemaVersion) ∨
      (probe.secretFormat = .legacy ∧
        encryptedSecretBaselineSchemaVersion ≤ compatibilitySchema) then
    some .inconsistentVersionMetadata
  else
    match probe.keyRequirement with
    | .missingSystemKeyId _ => some .missingKey
    | .mismatchedKeyId _ _ => some .keyMismatch
    | .missingPersistedKeyId _ => some .inconsistentVersionMetadata
    | .legacyFormat | .verified _ _ =>
      if compatibilitySchema < sqlSchema ∧ ¬ (compatibilitySchema = preBaselineSchemaVersion ∧
          sqlSchema = encryptedSecretBaselineSchemaVersion ∧ probe.secretFormat = .legacy) then
        some .inconsistentVersionMetadata
      else none

def schemaAfterSecretBaseline : Int :=
  if probe.secretFormat = .legacy then encryptedSecretBaselineSchemaVersion
  else probe.compatibilitySchemaVersion

def requiresAlertingUpgrade : Bool :=
  decide (alertingFoundationSchemaVersion ≤ probe.latestSqlMigrationVersion) &&
    decide (probe.schemaAfterSecretBaseline ≤ alertingFoundationSchemaVersion)

/-- Up to the encrypted baseline. -/
def baselineSteps : List StartupUpgradeStep :=
  (if probe.compatibilitySchemaVersion < preBaselineSchemaVersion then
    [.ensureStructuralPreBaseline] else []) ++
  (if probe.secretFormat = .legacy ∨ probe.journal = .baselineConversion then
    [.ensureSecretBaseline] else [])

/-- Up to the latest schema. -/
def schemaSteps : List StartupUpgradeStep :=
  (if probe.schemaAfterSecretBaseline < probe.latestSqlMigrationVersion then
    [.ensureSchema (if probe.requiresAlertingUpgrade then alertingFoundationSchemaVersion
      else probe.latestSqlMigrationVersion)] else []) ++
  (if probe.requiresAlertingUpgrade then
    .ensureAlertingUpgrade ::
      (if alertingFoundationSchemaVersion < probe.latestSqlMigrationVersion then
        [.ensureLegacyChangeEventsRemoval] else [])
    else [])

def sanitizerSteps : List StartupUpgradeStep :=
  if 18 ≤ probe.latestSqlMigrationVersion ∧ probe.requestLogUrlSanitizer ≠ .complete then
    [.ensureRequestLogSanitizer] else []

def runtimeSteps : List StartupUpgradeStep :=
  [.openRuntime, .stageRoutingPolicyV3, .verifyWritableRuntime, .verifySecrets]

def steps : List StartupUpgradeStep :=
  probe.baselineSteps ++ (probe.schemaSteps ++ (probe.sanitizerSteps ++ runtimeSteps))

end StartupUpgradeProbe

def planUpgrade (probe : StartupUpgradeProbe) : StartupUpgradePlan :=
  match probe.recovery with
  | some recovery => .needsRecovery recovery
  | none => .execute probe.steps

theorem planUpgrade_execute {probe : StartupUpgradeProbe} {steps : List StartupUpgradeStep} :
    planUpgrade probe = .execute steps ↔ probe.recovery = none ∧ steps = probe.steps := by
  unfold planUpgrade
  cases probe.recovery with
  | some recovery => exact ⟨nofun, nofun⟩
  | none =>
    exact ⟨fun planned => ⟨rfl, (StartupUpgradePlan.execute.inj planned).symm⟩, fun ⟨_, same⟩ => by
      rw [same]⟩

/-! ### The order of the steps -/

inductive RecoveryReason
  | missingKey
  | keyMismatch
  | corruptedDatabase
  | interruptedUpgrade
  | schemaMigrationFailed
  | alertingUpgradeFailed
  | secretBaselineFailed
  | internalUpgradeError
  | inconsistentSchemaMetadata
deriving DecidableEq, Repr

/-- A message is kept up to the text of the error that it wraps. -/
structure StartupUpgradeError where
  reason : RecoveryReason
  message : String
deriving DecidableEq, Repr

def invalidStepContract (message : String) : StartupUpgradeError := ⟨.internalUpgradeError, message⟩

/-- What the steps so far have done. -/
structure StepContract where
  openedRuntime : Bool := false
  routingPolicyStaged : Bool := false
  verifiedWritable : Bool := false
  verifiedSecrets : Bool := false
  alertingUpgradeSeen : Bool := false
  legacyRemovalSeen : Bool := false
  requestLogSanitizerSeen : Bool := false
deriving DecidableEq, Repr

namespace StepContract
variable (seen : StepContract)

def checkMigration : Except StartupUpgradeError Unit :=
  if seen.openedRuntime then .error <| invalidStepContract
    "startup upgrade plan tried to run migration steps after opening runtime"
  else .ok ()

def checkSanitizer : Except StartupUpgradeError Unit :=
  if seen.requestLogSanitizerSeen then .error <| invalidStepContract
    "startup upgrade plan tried to run migration steps after request-log sanitizer maintenance"
  else .ok ()

def step : StartupUpgradeStep → Except StartupUpgradeError StepContract
  | .ensureStructuralPreBaseline | .ensureSecretBaseline => do
    seen.checkMigration
    seen.checkSanitizer
    pure seen
  | .ensureSchema _ => do
    seen.checkMigration
    if seen.alertingUpgradeSeen then throw (invalidStepContract
      "startup upgrade plan tried to migrate schema after alerting upgrade")
    seen.checkSanitizer
    pure seen
  | .ensureAlertingUpgrade => do
    seen.checkMigration
    seen.checkSanitizer
    if seen.alertingUpgradeSeen then throw (invalidStepContract
      "startup upgrade plan tried to run alerting upgrade more than once")
    pure { seen with alertingUpgradeSeen := true }
  | .ensureLegacyChangeEventsRemoval =>
    if seen.openedRuntime then .error <| invalidStepContract
      "startup upgrade plan tried to run destructive migration after opening runtime"
    else if !seen.alertingUpgradeSeen then .error <| invalidStepContract
      ("startup upgrade plan tried to remove legacy change events before durable alerting " ++
        "upgrade")
    else if seen.legacyRemovalSeen then .error <| invalidStepContract
      "startup upgrade plan tried to run legacy change-events removal more than once"
    else if seen.requestLogSanitizerSeen then .error <| invalidStepContract
      ("startup upgrade plan tried to remove legacy change events after request-log sanitizer " ++
        "maintenance")
    else .ok { seen with legacyRemovalSeen := true }
  | .ensureRequestLogSanitizer =>
    if seen.openedRuntime then .error <| invalidStepContract
      ("startup upgrade plan tried to run request-log sanitizer maintenance after opening " ++
        "runtime")
    else if seen.requestLogSanitizerSeen then .error <| invalidStepContract
      "startup upgrade plan tried to run request-log sanitizer maintenance more than once"
    else .ok { seen with requestLogSanitizerSeen := true }
  | .openRuntime =>
    if seen.openedRuntime then .error <| invalidStepContract
      "startup upgrade plan tried to open runtime more than once"
    else .ok { seen with openedRuntime := true }
  | .stageRoutingPolicyV3 =>
    if !seen.openedRuntime || seen.routingPolicyStaged || seen.verifiedWritable then
      .error <| invalidStepContract
        "routing policy staging must run once after runtime open and before verification"
    else .ok { seen with routingPolicyStaged := true }
  | .verifyWritableRuntime =>
    if !seen.openedRuntime || !seen.routingPolicyStaged then .error <| invalidStepContract
      "startup upgrade plan tried to verify runtime before routing policy staging"
    else .ok { seen with verifiedWritable := true }
  | .verifySecrets =>
    if !seen.verifiedWritable then .error <| invalidStepContract
      "startup upgrade plan tried to verify secrets before writable runtime"
    else .ok { seen with verifiedSecrets := true }

end StepContract

def validateStartupUpgradeSteps (steps : List StartupUpgradeStep) :
    Except StartupUpgradeError Unit := do
  if steps.isEmpty then throw (invalidStepContract
    "startup upgrade executor received an empty plan")
  let seen ← steps.foldlM StepContract.step {}
  if !seen.openedRuntime then throw (invalidStepContract
    "startup upgrade plan completed without opening a runtime")
  if !seen.routingPolicyStaged || !seen.verifiedWritable || !seen.verifiedSecrets then
    throw (invalidStepContract
      "startup upgrade plan completed without final writable and secret verification")

section Order
variable (probe : StartupUpgradeProbe)

theorem baselineSteps_accepted : probe.baselineSteps.foldlM StepContract.step {} = .ok {} := by
  unfold StartupUpgradeProbe.baselineSteps
  split <;> split <;> rfl

theorem schemaSteps_accepted : ∃ alerting removal, probe.schemaSteps.foldlM StepContract.step {} =
    .ok { alertingUpgradeSeen := alerting, legacyRemovalSeen := removal } := by
  unfold StartupUpgradeProbe.schemaSteps
  by_cases requires : probe.requiresAlertingUpgrade = true
  · simp only [requires, if_true]
    split <;> split <;> exact ⟨_, _, rfl⟩
  · simp only [requires, Bool.false_eq_true, if_false]
    split <;> exact ⟨_, _, rfl⟩

theorem closingSteps_accepted (alerting removal : Bool) : ∃ sanitizer,
    (probe.sanitizerSteps ++ StartupUpgradeProbe.runtimeSteps).foldlM StepContract.step
        { alertingUpgradeSeen := alerting, legacyRemovalSeen := removal } =
      .ok ⟨true, true, true, true, alerting, removal, sanitizer⟩ := by
  unfold StartupUpgradeProbe.sanitizerSteps
  split <;> exact ⟨_, rfl⟩

/-- Every order of the planner is accepted, whatever it was made for. -/
theorem validate_plannedSteps : validateStartupUpgradeSteps probe.steps = .ok () := by
  obtain ⟨alerting, removal, schema⟩ := schemaSteps_accepted probe
  obtain ⟨sanitizer, closing⟩ := closingSteps_accepted probe alerting removal
  have nonempty : probe.steps.isEmpty = false := by
    simp [StartupUpgradeProbe.steps, StartupUpgradeProbe.runtimeSteps]
  have folded : probe.steps.foldlM StepContract.step {} =
      .ok ⟨true, true, true, true, alerting, removal, sanitizer⟩ := by
    rw [StartupUpgradeProbe.steps, List.foldlM_append, baselineSteps_accepted]
    show List.foldlM _ _ _ = _
    rw [List.foldlM_append, schema]
    exact closing
  rw [validateStartupUpgradeSteps, nonempty, folded]
  rfl

end Order

end RelayPool.Upgrade
