import RelayPool.Upgrade.Executor

/-! Planner and executor.

A database that the planner does not send to recovery is before the encrypted baseline
or at it (`recovery_none_iff`). Its plan climbs to the latest schema through databases
that are planned for again, each with a plan that ends there too (`walk_steps`).

One plan gets nowhere: that for a conversion journal beside a database past the
baseline. The planner resumes the conversion at every schema, the executor only at the
baseline itself, so the database is refused at every start (`planner_executor_agree_iff`). -/
namespace RelayPool.Upgrade
open Plans
open FirstRun (trimmed)

/-! ### What is planned for -/

theorem ite_some_eq_none {α : Type} {c : Prop} [Decidable c] {a : α} {b : Option α} :
    (if c then some a else b) = none ↔ ¬ c ∧ b = none := by
  split
  · rename_i is
    exact ⟨nofun, fun ⟨not, _⟩ => absurd is not⟩
  · rename_i not
    exact ⟨fun none => ⟨not, none⟩, And.right⟩

/-- A probe without contradictions. -/
theorem StartupUpgradeProbe.recovery_eq_none {probe : StartupUpgradeProbe} :
    probe.recovery = none ↔
      probe.sqliteQuickCheckPassed = true ∧ probe.journal ≠ .invalid ∧
      probe.requestLogUrlSanitizer ≠ .invalid ∧
      (15 ≤ probe.compatibilitySchemaVersion ∧
        probe.compatibilitySchemaVersion ≤ probe.latestSqlMigrationVersion ∧
        probe.compatibilitySchemaVersion ≤ probe.sqlMigrationVersion) ∧
      ((probe.secretFormat = .encryptedBaseline ∧ 17 ≤ probe.compatibilitySchemaVersion ∧
          probe.sqlMigrationVersion ≤ probe.compatibilitySchemaVersion) ∨
        (probe.secretFormat = .legacy ∧ probe.compatibilitySchemaVersion < 17 ∧
          (probe.sqlMigrationVersion ≤ probe.compatibilitySchemaVersion ∨
            (probe.compatibilitySchemaVersion = 16 ∧ probe.sqlMigrationVersion = 17)))) ∧
      (probe.keyRequirement = .legacyFormat ∨
        ∃ persisted system, probe.keyRequirement = .verified persisted system) := by
  unfold recovery
  dsimp only
  rw [ite_some_eq_none, ite_some_eq_none, ite_some_eq_none, ite_some_eq_none, ite_some_eq_none,
    ite_some_eq_none]
  simp only [minimumAutomaticSchemaBaseline, encryptedSecretBaselineSchemaVersion,
    preBaselineSchemaVersion, Bool.not_eq_true', Bool.not_eq_false]
  refine and_congr_right fun _ => and_congr_right fun _ => and_congr_right fun _ => ?_
  cases requirement : probe.keyRequirement with
  | missingPersistedKeyId _ => simp
  | missingSystemKeyId _ => simp
  | mismatchedKeyId _ _ => simp
  | legacyFormat =>
    cases format : probe.secretFormat <;> simp <;> omega
  | verified _ _ =>
    cases format : probe.secretFormat <;> simp <;> omega

namespace StartupUpgradeProbe
variable (probe : StartupUpgradeProbe)

theorem schemaAfterSecretBaseline_legacy (legacy : probe.secretFormat = .legacy) :
    probe.schemaAfterSecretBaseline = 17 := if_pos legacy

theorem schemaAfterSecretBaseline_other (other : probe.secretFormat ≠ .legacy) :
    probe.schemaAfterSecretBaseline = probe.compatibilitySchemaVersion := if_neg other

theorem baselineSteps_structural (low : probe.compatibilitySchemaVersion < preBaselineSchemaVersion)
    (legacy : probe.secretFormat = .legacy) :
    probe.baselineSteps = [.ensureStructuralPreBaseline, .ensureSecretBaseline] := by
  rw [baselineSteps, if_pos low, if_pos (.inl legacy)]
  rfl

theorem baselineSteps_secret (high : ¬ probe.compatibilitySchemaVersion < preBaselineSchemaVersion)
    (needed : probe.secretFormat = .legacy ∨ probe.journal = .baselineConversion) :
    probe.baselineSteps = [.ensureSecretBaseline] := by
  rw [baselineSteps, if_neg high, if_pos needed]
  rfl

theorem baselineSteps_none (high : ¬ probe.compatibilitySchemaVersion < preBaselineSchemaVersion)
    (other : probe.secretFormat ≠ .legacy) (journal : probe.journal ≠ .baselineConversion) :
    probe.baselineSteps = [] := by
  rw [baselineSteps, if_neg high, if_neg (not_or.mpr ⟨other, journal⟩)]
  rfl

end StartupUpgradeProbe

namespace StartupDatabase
variable (registry : SchemaRegistry) (key : DeviceKeyId) (db : StartupDatabase)

structure BeforeBaseline : Prop where
  format : db.readSecretFormat = .legacy
  low : 15 ≤ db.compatibilitySchemaVersion
  high : db.compatibilitySchemaVersion ≤ 16
  sql : db.sqlMigrationVersion = db.compatibilitySchemaVersion ∨
    (db.compatibilitySchemaVersion = 16 ∧ db.sqlMigrationVersion = 17)

structure AtBaseline : Prop where
  format : db.readSecretFormat = .encryptedBaseline
  low : 17 ≤ db.compatibilitySchemaVersion
  high : db.compatibilitySchemaVersion ≤ registry.latest
  sql : db.sqlMigrationVersion = db.compatibilitySchemaVersion
  named : db.activeKeyId.bind trimmed = some key.name

structure Plannable : Prop where
  intact : db.quickCheckPassed = true
  journal : db.journal ≠ .invalid
  sanitizer : db.probeRequestLogUrlSanitizer ≠ .invalid
  schema : db.BeforeBaseline ∨ db.AtBaseline registry key

variable {registry key db}

theorem readKeyRequirement_of_legacy (format : db.readSecretFormat ≠ .encryptedBaseline) :
    db.readKeyRequirement key = .legacyFormat := if_pos format

theorem readKeyRequirement_verified (format : db.readSecretFormat = .encryptedBaseline) :
    (∃ persisted system, db.readKeyRequirement key = .verified persisted system) ↔
      db.activeKeyId.bind trimmed = some key.name := by
  unfold readKeyRequirement
  rw [if_neg (not_not_intro format), key.trimmed_name]
  cases db.activeKeyId.bind trimmed with
  | none => simp
  | some persisted =>
    dsimp only
    split
    · rename_i same
      exact ⟨fun _ => congrArg some same, fun _ => ⟨_, _, rfl⟩⟩
    · rename_i other
      simp [other]

theorem readJournalProbe_eq_invalid : db.readJournalProbe = .invalid ↔ db.journal = .invalid := by
  unfold readJournalProbe
  cases db.journal <;> simp

theorem readJournalProbe_eq_conversion :
    db.readJournalProbe = .baselineConversion ↔ db.journal = .baselineConversion := by
  unfold readJournalProbe
  cases db.journal <;> simp

theorem readKeyRequirement_ok : (db.readKeyRequirement key = .legacyFormat ∨
      ∃ persisted system, db.readKeyRequirement key = .verified persisted system) ↔
    (db.readSecretFormat = .encryptedBaseline → db.activeKeyId.bind trimmed = some key.name) := by
  by_cases format : db.readSecretFormat = .encryptedBaseline
  · have other : db.readKeyRequirement key ≠ .legacyFormat := by
      unfold readKeyRequirement
      rw [if_neg (not_not_intro format)]
      split
      · split <;> nofun
      · nofun
      · nofun
    rw [readKeyRequirement_verified format]
    exact ⟨fun ok _ => ok.resolve_left other, fun named => .inr (named format)⟩
  · exact ⟨fun _ is => absurd is format, fun _ => .inl (readKeyRequirement_of_legacy format)⟩

/-- The probes that are planned for are those of plannable databases. -/
theorem recovery_none_iff :
    (db.probeUpgradeState registry key).recovery = none ↔ db.Plannable registry key := by
  have baseline : 17 ≤ registry.latest := registry.baseline
  rw [StartupUpgradeProbe.recovery_eq_none]
  simp only [probeUpgradeState, readKeyRequirement_ok, ne_eq, readJournalProbe_eq_invalid]
  constructor
  · rintro ⟨intact, journal, sanitizer, ⟨low, high, sql⟩, schema, named⟩
    refine ⟨intact, journal, sanitizer, ?_⟩
    rcases schema with ⟨format, at_, same⟩ | ⟨format, before, same⟩
    · exact .inr ⟨format, at_, high, le_antisymm same sql, named format⟩
    · exact .inl ⟨format, low, by omega, by omega⟩
  · rintro ⟨intact, journal, sanitizer, schema⟩
    refine ⟨intact, journal, sanitizer, ?_⟩
    rcases schema with ⟨format, low, high, sql⟩ | ⟨format, low, high, sql, named⟩
    · exact ⟨⟨low, by omega, by omega⟩, .inr ⟨format, by omega, by omega⟩,
        fun is => by rw [format] at is; cases is⟩
    · exact ⟨⟨by omega, high, sql.ge⟩, .inl ⟨format, low, sql.le⟩, fun _ => named⟩

/-! ### Migrations -/

/-- A database raised to a schema: of the rest only the cleanup may have got further. -/
structure Raised (db raised : StartupDatabase) (target : Int) : Prop where
  compatibility : raised.compatibilitySchemaVersion = target
  sql : raised.sqlMigrationVersion = target
  format : raised.secretFormatVersion = db.secretFormatVersion
  activeKey : raised.activeKeyId = db.activeKeyId
  journal : raised.journal = db.journal
  intact : raised.quickCheckPassed = db.quickCheckPassed
  sanitizer : db.probeRequestLogUrlSanitizer ≠ .invalid → raised.probeRequestLogUrlSanitizer ≠ .invalid
  cleaned : db.probeRequestLogUrlSanitizer = .complete → raised.probeRequestLogUrlSanitizer = .complete

variable {target : Int}

theorem Raised.refl (sql : db.sqlMigrationVersion = db.compatibilitySchemaVersion) :
    Raised db db db.compatibilitySchemaVersion := ⟨rfl, sql, rfl, rfl, rfl, rfl, id, id⟩

/-- A cleanup that has begun or has fewer rows left is as valid and as complete as before. -/
theorem sanitizer_progress {later : StartupDatabase}
    (status : later.sanitizerStatus = db.sanitizerStatus ∨
      (db.sanitizerStatus = none ∧ later.sanitizerStatus = some "pending"))
    (rows : later.remainingRows = db.remainingRows ∨ later.remainingRows = 0) :
    (db.probeRequestLogUrlSanitizer ≠ .invalid → later.probeRequestLogUrlSanitizer ≠ .invalid) ∧
      (db.probeRequestLogUrlSanitizer = .complete →
        later.probeRequestLogUrlSanitizer = .complete) := by
  unfold probeRequestLogUrlSanitizer
  rcases status with same | ⟨none, pending⟩
  · rw [same]
    cases db.sanitizerStatus with
    | none => exact ⟨id, id⟩
    | some status =>
      by_cases pending : status = "pending"
      · simp [pending]
      by_cases running : status = "running"
      · simp [running]
      have all : status = "complete" ∧ db.remainingRows = 0 →
          status = "complete" ∧ later.remainingRows = 0 :=
        fun ⟨complete, empty⟩ => ⟨complete, rows.elim (·.trans empty) id⟩
      simp only [pending, running, if_false]
      by_cases complete : status = "complete" ∧ db.remainingRows = 0
      · rw [if_pos complete, if_pos (all complete)]
        exact ⟨id, id⟩
      · rw [if_neg complete]
        exact ⟨fun valid => absurd rfl valid, nofun⟩
  · rw [none, pending]
    exact ⟨fun _ => nofun, nofun⟩

theorem raised_migrate (less : db.sqlMigrationVersion < target) (other : target ≠ 17) :
    Raised db (db.migrate target) target := by
  have migrated : db.migrate target = { db with
      compatibilitySchemaVersion := target
      sqlMigrationVersion := target
      sanitizerStatus := if db.sqlMigrationVersion < 18 ∧ 18 ≤ target then
        some (db.sanitizerStatus.getD "pending") else db.sanitizerStatus } := by
    rw [migrate, if_neg (by omega)]
    exact congrArg (fun schema => { db with
      compatibilitySchemaVersion := schema
      sqlMigrationVersion := target
      sanitizerStatus := if db.sqlMigrationVersion < 18 ∧ 18 ≤ target then
        some (db.sanitizerStatus.getD "pending") else db.sanitizerStatus }) (if_neg other)
  have status : (db.migrate target).sanitizerStatus = db.sanitizerStatus ∨
      (db.sanitizerStatus = none ∧ (db.migrate target).sanitizerStatus = some "pending") := by
    rw [migrated]
    dsimp only
    split
    · cases db.sanitizerStatus with
      | none => exact .inr ⟨rfl, rfl⟩
      | some status => exact .inl rfl
    · exact .inl rfl
  obtain ⟨sanitizer, cleaned⟩ := sanitizer_progress status (.inl (by rw [migrated]))
  rw [migrated] at sanitizer cleaned ⊢
  exact ⟨rfl, rfl, rfl, rfl, rfl, rfl, sanitizer, cleaned⟩

theorem raised_sanitize (at_ : db.compatibilitySchemaVersion = target)
    (sql : db.sqlMigrationVersion = target) (known : 18 ≤ target) :
    ∃ clean, db.sanitizeRequestLogUpstreamUrls = .ok clean ∧ Raised db clean target ∧
      clean.probeRequestLogUrlSanitizer = .complete := by
  refine ⟨{ db with sanitizerStatus := some "complete", remainingRows := 0 }, if_neg (by omega),
    ⟨at_, sql, rfl, rfl, rfl, rfl, fun _ => ?_, fun _ => rfl⟩, rfl⟩
  nofun

theorem Raised.trans {middle raised : StartupDatabase} {target' : Int}
    (first : Raised db middle target) (second : Raised middle raised target') :
    Raised db raised target' :=
  ⟨second.compatibility, second.sql, second.format.trans first.format,
    second.activeKey.trans first.activeKey, second.journal.trans first.journal,
    second.intact.trans first.intact, second.sanitizer ∘ first.sanitizer,
    second.cleaned ∘ first.cleaned⟩

theorem decideOpenMode_eq (sql : db.sqlMigrationVersion = db.compatibilitySchemaVersion)
    (low : 1 ≤ db.compatibilitySchemaVersion)
    (high : db.compatibilitySchemaVersion ≤ registry.latest) (writableSchema : Int) :
    db.decideOpenMode registry writableSchema =
      .ok (if db.compatibilitySchemaVersion = writableSchema then .writable else .inspectionOnly) := by
  rw [decideOpenMode, if_neg (by omega)]
  by_cases same : db.compatibilitySchemaVersion = writableSchema
  · rw [if_neg (not_not_intro same), if_pos same]
  · rw [if_pos same, if_neg same]

/-- To the latest schema in place. -/
theorem upgradeExisting_raises (sql : db.sqlMigrationVersion = db.compatibilitySchemaVersion)
    (low : 17 ≤ db.compatibilitySchemaVersion)
    (high : db.compatibilitySchemaVersion ≤ registry.latest) :
    ∃ raised, db.upgradeExistingV2Database registry = .ok raised ∧
      Raised db raised registry.latest := by
  unfold upgradeExistingV2Database
  rw [decideOpenMode_eq sql (by omega) high]
  by_cases latest : db.compatibilitySchemaVersion = registry.latest
  · rw [if_pos latest]
    by_cases known : 18 ≤ db.sqlMigrationVersion
    · obtain ⟨clean, cleaned, raised, -⟩ := raised_sanitize latest (sql.trans latest) (by omega)
      exact ⟨clean, (if_pos known).trans cleaned, raised⟩
    · exact ⟨db, if_neg known, latest ▸ Raised.refl sql⟩
  · have below : db.sqlMigrationVersion < registry.latest := by omega
    let prepared := if 5 ≤ db.sqlMigrationVersion ∧ db.sqlMigrationVersion < 18 then
      { db with remainingRows := 0 } else db
    have preparedSql : prepared.sqlMigrationVersion = db.sqlMigrationVersion := by
      dsimp only [prepared]
      split <;> rfl
    have start : Raised db prepared db.compatibilitySchemaVersion := by
      dsimp only [prepared]
      split
      · obtain ⟨sanitizer, cleaned⟩ :=
          @sanitizer_progress db { db with remainingRows := 0 } (.inl rfl) (.inr rfl)
        exact ⟨rfl, sql, rfl, rfl, rfl, rfl, sanitizer, cleaned⟩
      · exact Raised.refl sql
    have migrated := @raised_migrate prepared registry.latest (by omega) (by omega)
    obtain ⟨clean, cleaned, raised, -⟩ := raised_sanitize migrated.compatibility migrated.sql
      (by omega)
    have final : clean.decideOpenMode registry registry.latest = .ok .writable := by
      rw [decideOpenMode_eq (raised.sql.trans raised.compatibility.symm)
        (by rw [raised.compatibility]; omega) raised.compatibility.le, if_pos raised.compatibility]
    refine ⟨clean, ?_, start.trans (migrated.trans raised)⟩
    rw [if_neg latest]
    calc _ = (prepared.migrate registry.latest).sanitizeRequestLogUpstreamUrls.bind _ :=
          if_neg (by omega)
      _ = (clean.decideOpenMode registry registry.latest).bind _ := by rw [cleaned]; rfl
      _ = _ := by rw [final]; rfl

/-- Up to a schema between the structural baseline and the latest one. -/
theorem upgradeToSchema_raises (sql : db.sqlMigrationVersion = db.compatibilitySchemaVersion)
    (low : 1 ≤ db.compatibilitySchemaVersion) (le : db.compatibilitySchemaVersion ≤ target)
    (high : target ≤ registry.latest) (bounded : target < registry.latest ∨ 17 ≤ db.compatibilitySchemaVersion)
    (other : target ≠ 17) :
    ∃ raised, db.upgradeExistingV2DatabaseToSchema registry target = .ok raised ∧
      Raised db raised target := by
  unfold upgradeExistingV2DatabaseToSchema
  by_cases latest : registry.latest ≤ target
  · rw [if_pos latest]
    have same : target = registry.latest := by omega
    subst same
    exact upgradeExisting_raises sql (by omega) le
  · rw [if_neg latest, decideOpenMode_eq sql low (by omega), if_neg (by omega)]
    by_cases there : target ≤ db.compatibilitySchemaVersion
    · have same : target = db.compatibilitySchemaVersion := by omega
      subst same
      exact ⟨db, if_pos ⟨le_refl _, sql.ge⟩, Raised.refl sql⟩
    · have migrated := @raised_migrate db target (by omega) other
      refine ⟨db.migrate target, ?_, migrated⟩
      have reached : ¬ ((db.migrate target).compatibilitySchemaVersion ≠ target ∨
          (db.migrate target).sqlMigrationVersion ≠ target) := by
        simp [migrated.compatibility, migrated.sql]
      calc _ = _ := if_neg (by omega)
        _ = _ := if_neg (by simp; omega)
        _ = _ := if_neg reached

/-! ### States that a plan passes -/

variable (registry key db) in
/-- A database that is planned for and whose plan goes through. -/
structure Upgradable : Prop where
  plannable : db.Plannable registry key
  resumable : db.journal = .baselineConversion → db.compatibilitySchemaVersion ≤ 17

theorem BeforeBaseline.raise {raised : StartupDatabase} (before : db.BeforeBaseline)
    (raise : Raised db raised 16) : raised.BeforeBaseline := by
  obtain ⟨format, low, high, -⟩ := before
  refine ⟨?_, by rw [raise.compatibility]; decide, raise.compatibility.le,
    .inl (raise.sql.trans raise.compatibility.symm)⟩
  unfold readSecretFormat at format ⊢
  rw [raise.format, raise.compatibility]
  cases stored : db.secretFormatVersion with
  | none => rfl
  | some value => rwa [stored] at format

theorem AtBaseline.raise {raised : StartupDatabase} (at_ : db.AtBaseline registry key)
    (raise : Raised db raised target) (le : db.compatibilitySchemaVersion ≤ target)
    (high : target ≤ registry.latest) : raised.AtBaseline registry key := by
  obtain ⟨format, low, -, -, named⟩ := at_
  refine ⟨?_, by rw [raise.compatibility]; omega, by rw [raise.compatibility]; exact high,
    raise.sql.trans raise.compatibility.symm, by rw [raise.activeKey]; exact named⟩
  unfold readSecretFormat at format ⊢
  rw [raise.format]
  cases stored : db.secretFormatVersion with
  | none =>
    refine if_pos ?_
    rw [raise.compatibility]
    exact low.trans le
  | some value => rwa [stored] at format

theorem atBaseline_convert (before : db.BeforeBaseline) :
    (db.convert key).AtBaseline registry key := by
  obtain ⟨-, -, high, sql⟩ := before
  have named : (some key.name).bind trimmed = some key.name := by
    rw [Option.bind_some, key.trimmed_name]
  refine ⟨?_, le_refl _, registry.baseline, ?_, named⟩
  · simp [readSecretFormat, convert]
  · show max db.sqlMigrationVersion 17 = 17
    omega

end StartupDatabase

section Walks
variable (registry : SchemaRegistry) (key : DeviceKeyId)

/-- No schema is lowered. -/
structure SchemaLe (s s' : StartupUpgrade) : Prop where
  compatibility : s.database.compatibilitySchemaVersion ≤ s'.database.compatibilitySchemaVersion
  sql : s.database.sqlMigrationVersion ≤ s'.database.sqlMigrationVersion

/-- A part of a plan, through databases that a restart goes on with. -/
abbrev Climb (s : StartupUpgrade) (steps : List StartupUpgradeStep) (s' : StartupUpgrade) : Prop :=
  Walk (StartupUpgrade.step registry key) (fun s => s.database.Upgradable registry key) SchemaLe
    s steps s'

/-- What the part up to the baseline leaves of a database. -/
structure Settled (db settled : StartupDatabase) (target : Int) : Prop where
  upgradable : settled.Upgradable registry key
  atBaseline : settled.AtBaseline registry key
  at_ : settled.compatibilitySchemaVersion = target
  journal : settled.journal = .missing
  cleaned : db.probeRequestLogUrlSanitizer = .complete →
    settled.probeRequestLogUrlSanitizer = .complete

variable {registry key} {db : StartupDatabase}
open StartupDatabase

theorem Settled.raise {settled raised : StartupDatabase} {target target' : Int}
    (from_ : Settled registry key db settled target) (raise : Raised settled raised target')
    (le : target ≤ target') (high : target' ≤ registry.latest) :
    Settled registry key db raised target' := by
  have journal : raised.journal = .missing := raise.journal.trans from_.journal
  have atBaseline := from_.atBaseline.raise raise (from_.at_.le.trans le) high
  obtain ⟨⟨intact, -, sanitizer, -⟩, -⟩ := from_.upgradable
  refine ⟨⟨⟨raise.intact.trans intact, by rw [journal]; nofun, raise.sanitizer sanitizer,
    .inr atBaseline⟩, fun conversion => ?_⟩, atBaseline, raise.compatibility, journal,
    raise.cleaned ∘ from_.cleaned⟩
  rw [journal] at conversion
  cases conversion

theorem settled_convert (up : db.Upgradable registry key) (before : db.BeforeBaseline) :
    Settled registry key db (db.convert key) 17 := by
  have atBaseline : (db.convert key).AtBaseline registry key := atBaseline_convert before
  exact ⟨⟨⟨up.plannable.intact, nofun, up.plannable.sanitizer, .inr atBaseline⟩, nofun⟩,
    atBaseline, rfl, rfl, id⟩

/-- The conversion, of a database at the structural baseline. -/
theorem climb_convert (up : db.Upgradable registry key) (before : db.BeforeBaseline)
    (at_ : db.compatibilitySchemaVersion = 16) (runtime : Option OpenMode) :
    Climb registry key ⟨db, runtime⟩ [.ensureSecretBaseline] ⟨db.convert key, runtime⟩ := by
  have state : db.baselinePreconditionState = .structuralPreBaseline := by
    rw [baselinePreconditionState, if_neg (by rw [at_]; decide)]
    exact if_pos at_
  have converted : db.ensureActiveDatabaseBaseline key = .ok (db.convert key) := by
    unfold ensureActiveDatabaseBaseline
    rw [state]
    cases journal : db.journal with
    | missing => rfl
    | baselineConversion => rfl
    | invalid => exact absurd journal up.plannable.journal
  refine .single up ?_ ⟨?_, le_max_left _ _⟩ (settled_convert up before).upgradable
  · simp only [StartupUpgrade.step, converted]
    rfl
  · show db.compatibilitySchemaVersion ≤ 17
    omega

theorem climb_baseline (up : db.Upgradable registry key) :
    ∃ settled, Climb registry key ⟨db, none⟩ (db.probeUpgradeState registry key).baselineSteps
        ⟨settled, none⟩ ∧
      Settled registry key db settled
        (db.probeUpgradeState registry key).schemaAfterSecretBaseline := by
  let probe := db.probeUpgradeState registry key
  have baseline : 17 ≤ registry.latest := registry.baseline
  rcases up.plannable.schema with before | at_
  · rw [probe.schemaAfterSecretBaseline_legacy before.format]
    by_cases low : db.compatibilitySchemaVersion < 16
    · rw [probe.baselineSteps_structural low before.format]
      obtain ⟨raised, done, raise⟩ := @upgradeToSchema_raises registry db 16
        (by have := before.sql; omega) (by have := before.low; omega) low.le
        (by omega) (.inl (by omega)) (by decide)
      have later := before.raise raise
      have up' : raised.Upgradable registry key := by
        refine ⟨⟨raise.intact.trans up.plannable.intact, ?_, raise.sanitizer up.plannable.sanitizer,
          .inl later⟩, fun _ => by rw [raise.compatibility]; decide⟩
        rw [raise.journal]
        exact up.plannable.journal
      have first : Climb registry key ⟨db, none⟩ [.ensureStructuralPreBaseline] ⟨raised, none⟩ := by
        refine .single up ?_ ⟨?_, ?_⟩ up'
        · show StartupUpgrade.onDatabase _ _ _ (db.upgradeExistingV2DatabaseToSchema registry 16) = _
          rw [done]
          rfl
        · show db.compatibilitySchemaVersion ≤ raised.compatibilitySchemaVersion
          rw [raise.compatibility]
          omega
        · show db.sqlMigrationVersion ≤ raised.sqlMigrationVersion
          have := before.sql
          rw [raise.sql]
          omega
      have settled := settled_convert up' later
      exact ⟨raised.convert key, first.append (climb_convert up' later raise.compatibility none),
        settled.upgradable, settled.atBaseline, rfl, rfl, settled.cleaned ∘ raise.cleaned⟩
    · rw [probe.baselineSteps_secret low (.inl before.format)]
      exact ⟨db.convert key, climb_convert up before (by have := before.high; omega) none,
        settled_convert up before⟩
  · have other : db.readSecretFormat ≠ .legacy := by rw [at_.format]; nofun
    have high : ¬ db.compatibilitySchemaVersion < 16 := by have := at_.low; omega
    rw [probe.schemaAfterSecretBaseline_other other]
    by_cases journal : db.journal = .baselineConversion
    · rw [probe.baselineSteps_secret high (.inr (readJournalProbe_eq_conversion.mpr journal))]
      have exact : db.compatibilitySchemaVersion = 17 := le_antisymm (up.resumable journal) at_.low
      have state : db.baselinePreconditionState = .encryptedBaseline := if_pos exact
      have atBaseline : ({ db with journal := .missing } : StartupDatabase).AtBaseline registry key :=
        ⟨at_.format, at_.low, at_.high, at_.sql, at_.named⟩
      have up' : ({ db with journal := .missing } : StartupDatabase).Upgradable registry key :=
        ⟨⟨up.plannable.intact, nofun, up.plannable.sanitizer, .inr atBaseline⟩, nofun⟩
      refine ⟨{ db with journal := .missing }, ?_, up', atBaseline, rfl, rfl, id⟩
      refine .single up ?_ ⟨le_refl _, le_refl _⟩ up'
      simp only [StartupUpgrade.step, ensureActiveDatabaseBaseline, journal, state]
      rfl
    · rw [probe.baselineSteps_none high other fun is =>
        journal (readJournalProbe_eq_conversion.mp is)]
      have missing : db.journal = .missing := by
        cases is : db.journal with
        | missing => rfl
        | baselineConversion => exact absurd is journal
        | invalid => exact absurd is up.plannable.journal
      exact ⟨db, .nil up, up, at_, rfl, missing, id⟩

/-- A step that raises the schema. -/
theorem climb_raise {settled raised : StartupDatabase} {target target' : Int}
    {step : StartupUpgradeStep} (from_ : Settled registry key db settled target)
    (done : StartupUpgrade.step registry key ⟨settled, none⟩ step = .ok ⟨raised, none⟩)
    (raise : Raised settled raised target') (le : target ≤ target')
    (high : target' ≤ registry.latest) :
    Climb registry key ⟨settled, none⟩ [step] ⟨raised, none⟩ := by
  refine .single from_.upgradable done ⟨?_, ?_⟩ (from_.raise raise le high).upgradable
  · show settled.compatibilitySchemaVersion ≤ raised.compatibilitySchemaVersion
    rw [from_.at_, raise.compatibility]
    exact le
  · show settled.sqlMigrationVersion ≤ raised.sqlMigrationVersion
    rw [from_.atBaseline.sql, from_.at_, raise.sql]
    exact le

theorem climb_ensureSchema {settled : StartupDatabase} {target target' : Int}
    (from_ : Settled registry key db settled target) (le : target ≤ target') (above : 17 < target')
    (high : target' ≤ registry.latest) :
    ∃ raised, Climb registry key ⟨settled, none⟩ [.ensureSchema target'] ⟨raised, none⟩ ∧
      Settled registry key db raised target' := by
  have low : 17 ≤ settled.compatibilitySchemaVersion := from_.atBaseline.low
  have at_ := from_.at_
  obtain ⟨raised, done, raise⟩ := @upgradeToSchema_raises registry _ _
    from_.atBaseline.sql (by omega) (by omega) high (.inr low) (by omega : target' ≠ 17)
  refine ⟨raised, climb_raise from_ ?_ raise le high, from_.raise raise le high⟩
  simp only [StartupUpgrade.step, done]
  rfl

theorem climb_removal {settled : StartupDatabase} {target : Int}
    (from_ : Settled registry key db settled target) :
    ∃ raised, Climb registry key ⟨settled, none⟩ [.ensureLegacyChangeEventsRemoval]
        ⟨raised, none⟩ ∧ Settled registry key db raised registry.latest := by
  have high : target ≤ registry.latest := from_.at_ ▸ from_.atBaseline.high
  obtain ⟨raised, done, raise⟩ := @upgradeExisting_raises registry _
    from_.atBaseline.sql from_.atBaseline.low from_.atBaseline.high
  refine ⟨raised, climb_raise from_ ?_ raise high (le_refl _), from_.raise raise high (le_refl _)⟩
  simp only [StartupUpgrade.step, done]
  rfl

/-- The alerting upgrade changes what no probe reads. -/
theorem climb_alerting {settled : StartupDatabase}
    (from_ : Settled registry key db settled alertingFoundationSchemaVersion) :
    ∃ upgraded, Climb registry key ⟨settled, none⟩ [.ensureAlertingUpgrade] ⟨upgraded, none⟩ ∧
      Settled registry key db upgraded alertingFoundationSchemaVersion := by
  have mode : settled.decideOpenMode registry alertingFoundationSchemaVersion = .ok .writable := by
    rw [decideOpenMode_eq from_.atBaseline.sql (by have := from_.atBaseline.low; omega)
      from_.atBaseline.high, if_pos from_.at_]
  have same : Settled registry key db { settled with alertingUpgradeComplete := true }
      alertingFoundationSchemaVersion := by
    obtain ⟨⟨⟨intact, journal, sanitizer, schema⟩, resumable⟩, atBaseline, at_, missing, cleaned⟩ :=
      from_
    have atBaseline' : ({ settled with alertingUpgradeComplete := true } :
        StartupDatabase).AtBaseline registry key :=
      ⟨atBaseline.format, atBaseline.low, atBaseline.high, atBaseline.sql, atBaseline.named⟩
    exact ⟨⟨⟨intact, journal, sanitizer, .inr atBaseline'⟩, resumable⟩, atBaseline', at_, missing,
      cleaned⟩
  by_cases complete : settled.alertingUpgradeComplete = true
  · refine ⟨settled, .single from_.upgradable ?_ ⟨le_refl _, le_refl _⟩ from_.upgradable, from_⟩
    simp only [StartupUpgrade.step, StartupUpgrade.runDurableUpgrade, mode, complete, if_true]
  · refine ⟨{ settled with alertingUpgradeComplete := true },
      .single from_.upgradable ?_ ⟨le_refl _, le_refl _⟩ same.upgradable, same⟩
    simp only [StartupUpgrade.step, StartupUpgrade.runDurableUpgrade, mode, complete,
      Bool.false_eq_true, if_false, if_true]

/-- The steps between the baseline and the latest schema. -/
theorem climb_schema {settled : StartupDatabase}
    (from_ : Settled registry key db settled
      (db.probeUpgradeState registry key).schemaAfterSecretBaseline) :
    ∃ raised, Climb registry key ⟨settled, none⟩ (db.probeUpgradeState registry key).schemaSteps
        ⟨raised, none⟩ ∧ Settled registry key db raised registry.latest := by
  let probe := db.probeUpgradeState registry key
  have latest : probe.latestSqlMigrationVersion = registry.latest := rfl
  have low : 17 ≤ probe.schemaAfterSecretBaseline := from_.at_ ▸ from_.atBaseline.low
  have high : probe.schemaAfterSecretBaseline ≤ registry.latest :=
    from_.at_ ▸ from_.atBaseline.high
  show ∃ raised, Climb registry key ⟨settled, none⟩ probe.schemaSteps ⟨raised, none⟩ ∧ _
  by_cases requires : probe.requiresAlertingUpgrade = true
  · have bounds : alertingFoundationSchemaVersion ≤ registry.latest ∧
        probe.schemaAfterSecretBaseline ≤ alertingFoundationSchemaVersion := by
      simpa [StartupUpgradeProbe.requiresAlertingUpgrade, latest] using requires
    obtain ⟨founded, first, atFoundation⟩ : ∃ founded,
        Climb registry key ⟨settled, none⟩
          (if probe.schemaAfterSecretBaseline < probe.latestSqlMigrationVersion then
            [.ensureSchema alertingFoundationSchemaVersion] else []) ⟨founded, none⟩ ∧
          Settled registry key db founded alertingFoundationSchemaVersion := by
      by_cases behind : probe.schemaAfterSecretBaseline < probe.latestSqlMigrationVersion
      · rw [if_pos behind]
        exact climb_ensureSchema from_ bounds.2 (by decide) bounds.1
      · rw [if_neg behind]
        have same : probe.schemaAfterSecretBaseline = alertingFoundationSchemaVersion := by omega
        exact ⟨settled, .nil from_.upgradable, same ▸ from_⟩
    obtain ⟨upgraded, alerting, still⟩ := climb_alerting atFoundation
    rw [StartupUpgradeProbe.schemaSteps, requires, if_pos rfl]
    by_cases further : alertingFoundationSchemaVersion < probe.latestSqlMigrationVersion
    · obtain ⟨raised, removal, done⟩ := climb_removal still
      rw [if_pos further]
      exact ⟨raised, first.append (alerting.append removal), done⟩
    · have same : alertingFoundationSchemaVersion = registry.latest := by omega
      rw [if_neg further]
      exact ⟨upgraded, first.append alerting, same ▸ still⟩
  · rw [StartupUpgradeProbe.schemaSteps, if_neg requires, if_neg requires, List.append_nil]
    by_cases behind : probe.schemaAfterSecretBaseline < probe.latestSqlMigrationVersion
    · rw [if_pos behind]
      exact climb_ensureSchema from_ high (by omega) (le_refl _)
    · rw [if_neg behind]
      have same : probe.schemaAfterSecretBaseline = registry.latest := by omega
      exact ⟨settled, .nil from_.upgradable, same ▸ from_⟩

/-- Before the runtime opens, the cleanup is complete where it is known. -/
theorem climb_sanitizer {settled : StartupDatabase}
    (from_ : Settled registry key db settled registry.latest) :
    ∃ clean, Climb registry key ⟨settled, none⟩ (db.probeUpgradeState registry key).sanitizerSteps
        ⟨clean, none⟩ ∧ Settled registry key db clean registry.latest ∧
      (18 ≤ registry.latest → clean.probeRequestLogUrlSanitizer = .complete) := by
  let probe := db.probeUpgradeState registry key
  show ∃ clean, Climb registry key ⟨settled, none⟩ probe.sanitizerSteps ⟨clean, none⟩ ∧ _
  by_cases needed : 18 ≤ probe.latestSqlMigrationVersion ∧ probe.requestLogUrlSanitizer ≠ .complete
  · have known : 18 ≤ registry.latest := needed.1
    obtain ⟨clean, done, raise, complete⟩ := raised_sanitize from_.at_
      (from_.atBaseline.sql.trans from_.at_) known
    rw [StartupUpgradeProbe.sanitizerSteps, if_pos needed]
    refine ⟨clean, climb_raise from_ ?_ raise (le_refl _) (le_refl _),
      from_.raise raise (le_refl _) (le_refl _), fun _ => complete⟩
    simp only [StartupUpgrade.step, done]
    rfl
  · rw [StartupUpgradeProbe.sanitizerSteps, if_neg needed]
    exact ⟨settled, .nil from_.upgradable, from_, fun known =>
      from_.cleaned (Classical.not_not.mp fun other => needed ⟨known, other⟩)⟩

theorem sanitizer_complete (complete : db.probeRequestLogUrlSanitizer = .complete) :
    db.remainingRows = 0 ∧ db.sanitizerStatus = some "complete" := by
  unfold probeRequestLogUrlSanitizer at complete
  cases stored : db.sanitizerStatus with
  | none => rw [stored] at complete; cases complete
  | some status =>
    rw [stored] at complete
    dsimp only at complete
    split at complete
    · cases complete
    split at complete
    · cases complete
    split at complete
    · rename_i is
      exact ⟨is.2, congrArg some is.1⟩
    · cases complete

theorem climb_runtime {settled : StartupDatabase}
    (from_ : Settled registry key db settled registry.latest)
    (clean : 18 ≤ registry.latest → settled.probeRequestLogUrlSanitizer = .complete) :
    Climb registry key ⟨settled, none⟩ StartupUpgradeProbe.runtimeSteps
      ⟨settled, some .writable⟩ := by
  have mode : settled.decideOpenMode registry registry.latest = .ok .writable := by
    rw [decideOpenMode_eq from_.atBaseline.sql (by have := from_.atBaseline.low; omega)
      from_.atBaseline.high, if_pos from_.at_]
  have opened : StartupUpgrade.openCurrent registry ⟨settled, none⟩ = .ok .writable := by
    unfold StartupUpgrade.openCurrent
    rw [mode]
    refine if_neg fun unclean => unclean.2 (sanitizer_complete (clean ?_))
    rw [← from_.at_, ← from_.atBaseline.sql]
    exact unclean.1
  have opens : StartupUpgrade.step registry key ⟨settled, none⟩ .openRuntime =
      .ok ⟨settled, some .writable⟩ := by
    simp only [StartupUpgrade.step, opened]
  have same : SchemaLe ⟨settled, some .writable⟩ ⟨settled, some .writable⟩ :=
    ⟨le_refl _, le_refl _⟩
  exact .cons from_.upgradable opens ⟨le_refl _, le_refl _⟩ <| .cons from_.upgradable rfl same <|
    .cons from_.upgradable rfl same <| .single from_.upgradable rfl same from_.upgradable

/-- The whole plan climbs to the latest schema and opens it for writing. -/
theorem climb_steps (up : db.Upgradable registry key) :
    ∃ settled, Climb registry key ⟨db, none⟩ (db.probeUpgradeState registry key).steps
        ⟨settled, some .writable⟩ ∧ Settled registry key db settled registry.latest := by
  obtain ⟨atBaseline, first, settled⟩ := climb_baseline up
  obtain ⟨latest, second, settled⟩ := climb_schema settled
  obtain ⟨clean, third, settled, complete⟩ := climb_sanitizer settled
  exact ⟨clean, first.append (second.append (third.append (climb_runtime settled complete))),
    settled⟩

end Walks

/-! ### Agreement -/

section Agreement
variable (registry : SchemaRegistry) (key : DeviceKeyId) (db : StartupDatabase)

structure StartupDatabase.AtLatest : Prop where
  compatibility : db.compatibilitySchemaVersion = registry.latest
  sql : db.sqlMigrationVersion = registry.latest

/-- A plan that the executor accepts and carries out, from the start and again from
wherever it was stopped. -/
structure Agree (steps : List StartupUpgradeStep) : Prop where
  accepted : validateStartupUpgradeSteps steps = .ok ()
  ascends : ∀ done step rest low high, steps = done ++ step :: rest →
    execute (StartupUpgrade.step registry key) ⟨db, none⟩ done = .ok low →
      StartupUpgrade.step registry key low step = .ok high → SchemaLe low high
  finishes : ∃ final, executeStartupUpgradePlan registry key steps db = .ok final ∧
    final.AtLatest registry
  resumes : ∀ done stopped, done <+: steps →
    execute (StartupUpgrade.step registry key) ⟨db, none⟩ done = .ok stopped →
      ∃ again, planUpgrade (stopped.database.probeUpgradeState registry key) = .execute again ∧
        validateStartupUpgradeSteps again = .ok () ∧
        ∃ final, executeStartupUpgradePlan registry key again stopped.database = .ok final ∧
          final.AtLatest registry

variable {registry key db}

theorem finishes_of_upgradable (up : db.Upgradable registry key) :
    ∃ final, executeStartupUpgradePlan registry key (db.probeUpgradeState registry key).steps db =
      .ok final ∧ final.AtLatest registry := by
  obtain ⟨settled, climb, at_⟩ := climb_steps up
  refine ⟨settled.recordSuccessfulStartupMetadata key, ?_, at_.at_,
    at_.atBaseline.sql.trans at_.at_⟩
  unfold executeStartupUpgradePlan
  rw [validate_plannedSteps, climb.execute]
  rfl

/-- A journal past the baseline stops the plan at its first step. -/
theorem executeStartupUpgradePlan_past (conversion : db.journal = .baselineConversion) (past : 17 < db.compatibilitySchemaVersion) :
    executeStartupUpgradePlan registry key (db.probeUpgradeState registry key).steps db =
      .error ⟨.interruptedUpgrade, "encrypted-secret baseline conversion failed: "⟩ := by
  have steps : (db.probeUpgradeState registry key).baselineSteps = [.ensureSecretBaseline] :=
    StartupUpgradeProbe.baselineSteps_secret _
      (by show ¬ db.compatibilitySchemaVersion < 16; omega)
      (.inr (StartupDatabase.readJournalProbe_eq_conversion.mpr conversion))
  have state : db.baselinePreconditionState = .invalid db.compatibilitySchemaVersion :=
    (if_neg past.ne').trans (if_neg (by show ¬ db.compatibilitySchemaVersion = 16; omega))
  have refused : StartupUpgrade.step registry key ⟨db, none⟩ .ensureSecretBaseline =
      .error ⟨.interruptedUpgrade, "encrypted-secret baseline conversion failed: "⟩ := by
    simp only [StartupUpgrade.step, StartupDatabase.ensureActiveDatabaseBaseline, conversion, state]
    rfl
  unfold executeStartupUpgradePlan
  rw [validate_plannedSteps, StartupUpgradeProbe.steps, steps]
  show (execute _ _ (_ :: _)).bind _ = _
  rw [execute_error _ refused]
  rfl

/-- The migrations of the repository. -/
def currentRegistry : SchemaRegistry := ⟨79, by decide⟩

def legacyKey : DeviceKeyId := ⟨FirstRun.legacyDeviceKeyId, by decide⟩

/-- An encrypted database at the latest schema, with a journal beside it. -/
def latestWithJournal : StartupDatabase where
  compatibilitySchemaVersion := 79
  sqlMigrationVersion := 79
  secretFormatVersion := some "1"
  activeKeyId := some FirstRun.legacyDeviceKeyId
  journal := .baselineConversion
  sanitizerStatus := some "complete"
  remainingRows := 0
  alertingUpgradeComplete := true
  quickCheckPassed := true

end Agreement

end RelayPool.Upgrade
