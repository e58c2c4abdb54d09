import RelayPool.FirstRun.Startup
import RelayPool.Runs

/-! A first run over restarts.

Up to the publication of the database every crash leaves a first run, and from the commit
of the active pointer on every startup ends with the key of the database. Between the two
the pointer does not name that key: the next startup finds a database, so it neither
creates a key nor looks at the journal, and no later one does
(`first_run_complete`). -/
namespace RelayPool.FirstRun
open Crash Runs StartupEnv

variable {installation : Installation} {disk : Disk} {env : StartupEnv installation}
  {manager : SecretManager}

/-- The key that a first run creates. -/
def StartupEnv.created (env : StartupEnv installation) : SecretManager := ⟨env.keyId, env.material⟩

/-- No trace of a data store. Credentials, a journal and a staged database may be left over. -/
structure Untouched (disk : Disk) : Prop where
  database : disk.database = none
  configured : disk.configured = false
  installationMarker : disk.installationMarker = false
  baselineConversionJournal : disk.baselineConversionJournal = false
  portableActivationJournal : disk.portableActivationJournal = false

/-- The identity that the startup draws is new. -/
structure Unused (store : CredentialStore) (env : StartupEnv installation) : Prop where
  valid : installation.format.validKeyId env.keyId = true
  absent : store.deviceKeys env.keyId = none
  unnamed : ∀ pointer, store.activePointer = some (.readable pointer) →
    pointer.activeKeyId ≠ env.keyId

/-- The database was created under the key, and the key is still stored. -/
structure Holds (installation : Installation) (manager : SecretManager) (disk : Disk) : Prop where
  database : disk.database = some ⟨manager.activeKeyId, [], manager.material⟩
  stored : disk.credentials.deviceKeys manager.activeKeyId = some (.readable manager.material)
  valid : installation.format.validKeyId manager.activeKeyId = true

/-- The pointer names the key of the database. -/
structure Committed (installation : Installation) (manager : SecretManager) (disk : Disk) :
    Prop extends Holds installation manager disk where
  named : disk.credentials.activePointer = some (.readable ⟨1, manager.activeKeyId⟩)

/-- The pointer names another key, or none. -/
structure Orphaned (installation : Installation) (manager : SecretManager) (disk : Disk) :
    Prop extends Holds installation manager disk where
  unnamed : ∀ pointer, disk.credentials.activePointer = some (.readable pointer) →
    pointer.activeKeyId ≠ manager.activeKeyId

/-! ### What a startup finds -/

theorem inspect_untouched (untouched : Untouched disk) (dir : String) :
    disk.inspectStartup dir = ⟨.firstRun dir, [], dir⟩ := by
  simp [Disk.inspectStartup, Disk.inspectCandidate, Disk.includeCandidate, decideStartup,
    protectedHealthyCandidates, untouched.database, untouched.configured,
    untouched.installationMarker]

/-- A database that is there is ready, whatever else was written. -/
theorem inspect_database {database : Database} (found : disk.database = some database)
    (dir : String) :
    ∃ candidate, disk.inspectStartup dir = ⟨.ready candidate.id, [candidate], dir⟩ := by
  unfold Disk.inspectStartup
  cases initialized : disk.configured || disk.installationMarker with
  | true =>
    refine ⟨disk.inspectCandidate ("Active:" ++ (dir ++ "/relay-pool-desktop-v2.sqlite3")) .active,
      ?_⟩
    simp [Disk.inspectCandidate, Disk.includeCandidate, decideStartup, candidateIsReady,
      protectedHealthyCandidates, found]
  | false =>
    refine ⟨disk.inspectCandidate ("Default:" ++ (dir ++ "/relay-pool-desktop-v2.sqlite3")) .default,
      ?_⟩
    simp [Disk.inspectCandidate, Disk.includeCandidate, decideStartup, candidateIsReady,
      protectedHealthyCandidates, found]

/-! ### A startup with a database -/

theorem load_committed (committed : Committed installation manager disk) :
    installation.loadExisting disk.credentials = .ok manager := by
  simp [Installation.loadExisting, KeyIdFormat.loadActiveOrLegacy, committed.named,
    committed.stored, committed.valid, decodeKey, Except.map]

theorem legacy_trimmed : trimmed legacyDeviceKeyId = some legacyDeviceKeyId := by decide

/-- A key that is loaded then is not the key of the database. -/
theorem load_orphaned (orphaned : Orphaned installation manager disk) {loaded : SecretManager}
    (h : installation.loadExisting disk.credentials = .ok loaded) :
    loaded.activeKeyId ≠ manager.activeKeyId ∧
      trimmed loaded.activeKeyId = some loaded.activeKeyId := by
  unfold Installation.loadExisting KeyIdFormat.loadActiveOrLegacy at h
  have legacy : legacyDeviceKeyId ≠ manager.activeKeyId := by
    intro same
    have valid := orphaned.valid
    rw [← same, installation.format.legacy_invalid] at valid
    cases valid
  split at h
  · cases h
  · rename_i pointer isPointer
    split at h
    · cases h
    · rename_i accepted
      have valid := Bool.eq_true_of_not_eq_false (not_or.mp accepted).2
      cases found : decodeKey (disk.credentials.deviceKeys pointer.activeKeyId) with
      | error kind => rw [found] at h; cases h
      | ok material =>
        rw [found] at h
        obtain rfl := Except.ok.inj h
        exact ⟨orphaned.unnamed pointer isPointer, installation.format.trimmed_of_valid _ valid⟩
  · cases found : decodeKey disk.credentials.legacyDataKey with
    | error kind => rw [found] at h; cases h
    | ok material =>
      rw [found] at h
      obtain rfl := Except.ok.inj h
      exact ⟨legacy, legacy_trimmed⟩

/-- Opening the database records the identity that it already has. -/
theorem open_database (found : disk.database = some ⟨manager.activeKeyId, [], manager.material⟩) :
    exec (openAndValidateV2 manager) disk none = (some (.ok ()), disk) ∧
      stops (openAndValidateV2 manager) disk = [disk] := by
  have same : { disk with
      database := disk.database.map ({ · with activeKeyId := manager.activeKeyId }) } = disk := by
    rw [found]
    show { disk with database := some _ } = disk
    rw [← found]
  unfold openAndValidateV2
  rw [exec_get_bind, stops_get_bind, found]
  dsimp only
  simp only [validateDatabaseSecrets, List.all_nil, reduceCtorEq, if_false, exec_write_bind,
    stops_write_bind, exec_pure, stops_pure, same, and_self]

/-- With its key named, the database opens and nothing changes. -/
theorem setup_committed (committed : Committed installation manager disk) :
    exec env.setup disk none = (some (.ready manager), disk) ∧ stops env.setup disk = [disk] := by
  obtain ⟨candidate, inspected⟩ :=
    inspect_database committed.database installation.defaultDataDir
  obtain ⟨opened, stopped⟩ := open_database committed.database
  have trims := installation.format.trimmed_of_valid _ committed.valid
  have loaded := load_committed committed
  have plan : planUpgrade (readKeyRequirement ⟨manager.activeKeyId, [], manager.material⟩
      manager.activeKeyId) = .ok () := by
    simp [readKeyRequirement, trims, planUpgrade]
  have prepared : exec (prepareDataStore
        ⟨.ready candidate.id, [candidate], installation.defaultDataDir⟩ manager) disk none =
      (some (.ready ⟨.ready candidate.id, [candidate], installation.defaultDataDir⟩), disk) ∧
      stops (prepareDataStore
        ⟨.ready candidate.id, [candidate], installation.defaultDataDir⟩ manager) disk = [disk] := by
    simp [prepareDataStore, prepareDataStore.finish, committed.database, plan,
      prepareGenerationTwo, exec_bind opened, stops_bind opened, stopped, inspected]
  simp [setup, initializeSecretMaterialForStartup, inspected, loaded, exec_bind prepared.1,
    stops_bind prepared.1, prepared.2]

/-- Without, it is found and not opened, and nothing changes either. -/
theorem setup_orphaned (orphaned : Orphaned installation manager disk) :
    ∃ decision, exec env.setup disk none = (some (.recovery decision), disk) ∧
      stops env.setup disk = [] := by
  obtain ⟨candidate, inspected⟩ := inspect_database orphaned.database installation.defaultDataDir
  cases load : installation.loadExisting disk.credentials with
  | error kind => simp [setup, initializeSecretMaterialForStartup, inspected, load]
  | ok loaded =>
    obtain ⟨other, trims⟩ := load_orphaned orphaned load
    have own := installation.format.trimmed_of_valid _ orphaned.valid
    have plan : planUpgrade (readKeyRequirement ⟨manager.activeKeyId, [], manager.material⟩
        loaded.activeKeyId) = .error .keyMismatch := by
      simp [readKeyRequirement, trims, own, other.symm, planUpgrade]
    simp [setup, initializeSecretMaterialForStartup, inspected, load, prepareDataStore,
      orphaned.database, plan]

/-! ### A first run -/

/-- The journal of the first run. -/
def StartupEnv.journal (env : StartupEnv installation) (phase : DeviceKeyJournalPhase) :
    DeviceKeyJournal :=
  .new phase env.keyId ("first-run:" ++ installation.defaultDataDir)

namespace Disk

/-- With the key stored and the journal at a phase. -/
def keyed (disk : Disk) (env : StartupEnv installation) (phase : DeviceKeyJournalPhase) : Disk :=
  { disk with
    journal := some (env.journal phase)
    credentials := disk.credentials.setDeviceKey env.keyId env.material }

def unstaged (disk : Disk) : Disk := { disk with staging := none }

def staged (disk : Disk) (manager : SecretManager) : Disk :=
  { disk with staging := some ⟨manager.activeKeyId, [], manager.material⟩ }

def published (disk : Disk) (manager : SecretManager) : Disk :=
  { disk with staging := none, database := some ⟨manager.activeKeyId, [], manager.material⟩ }

def installed (disk : Disk) (manager : SecretManager) : Disk :=
  { disk.published manager with configured := true, installationMarker := true }

def pointed (disk : Disk) (manager : SecretManager) : Disk :=
  { disk with credentials := { disk.credentials with
      activePointer := some (.readable ⟨1, manager.activeKeyId⟩) } }

def journaled (disk : Disk) (journal : DeviceKeyJournal) : Disk :=
  { disk with journal := some journal }

end Disk

theorem secret_firstRun (untouched : Untouched disk) (unused : Unused disk.credentials env)
    {state : DataStoreStartupState}
    (first : state = ⟨.firstRun installation.defaultDataDir, [], installation.defaultDataDir⟩) :
    exec (env.initializeSecretMaterialForStartup state) disk none =
        (some ⟨some env.created, some env.keyId, state⟩, disk.keyed env .keyCreated) ∧
      stops (env.initializeSecretMaterialForStartup state) disk =
        [disk, { disk.keyed env .planned with credentials := disk.credentials },
          disk.keyed env .planned] := by
  subst first
  simp [initializeSecretMaterialForStartup, Disk.startupHasRecoveryEvidence,
    untouched.baselineConversionJournal, untouched.portableActivationJournal,
    writeJournal, createPendingForFirstRun, KeyIdFormat.createPending, unused.valid,
    unused.absent, CredentialStore.setDeviceKey, decodeKey, Disk.keyed, StartupEnv.journal,
    StartupEnv.created, DeviceKeyJournal.advance, DeviceKeyJournal.new, Except.map, exec_map,
    stops_map]

theorem generation_firstRun (absent : disk.database = none) :
    exec (prepareGenerationTwo manager false) disk none =
        (some (.ok ()), disk.installed manager) ∧
      stops (prepareGenerationTwo manager false) disk =
        [disk, disk.unstaged, disk.staged manager, disk.published manager,
          { disk.published manager with configured := true }, disk.installed manager] := by
  have found : (disk.installed manager).database =
    some ⟨manager.activeKeyId, [], manager.material⟩ := rfl
  obtain ⟨opened, stopped⟩ := open_database found
  have passes : ∀ database : Database, database.secrets = [] →
      validateDatabaseSecrets database manager = true := by
    intro database empty
    rw [validateDatabaseSecrets, empty, List.all_nil]
  unfold prepareGenerationTwo prepareFreshInstall
  rw [if_neg Bool.false_ne_true, exec_get_bind, stops_get_bind, absent, Option.isSome_none,
    if_neg Bool.false_ne_true]
  dsimp only
  rw [passes ⟨manager.activeKeyId, [], manager.material⟩ rfl, if_neg (by decide)]
  refine ⟨?_, ?_⟩
  · show exec (openAndValidateV2 manager) (disk.installed manager) none = _
    exact opened
  · show disk :: _ :: _ :: _ :: _ :: stops (openAndValidateV2 manager) (disk.installed manager) = _
    rw [stopped]
    rfl

/-- Creating the database, from a disk that has the key. -/
theorem prepare_firstRun (absent : disk.database = none) {state : DataStoreStartupState}
    (first : state = ⟨.firstRun installation.defaultDataDir, [], installation.defaultDataDir⟩) :
    ∃ state', exec (prepareDataStore state manager) disk none =
        (some (.ready state'), disk.installed manager) ∧
      stops (prepareDataStore state manager) disk =
        [disk, disk.unstaged, disk.staged manager, disk.published manager,
          { disk.published manager with configured := true }, disk.installed manager] := by
  subst first
  have found : (disk.installed manager).database =
    some ⟨manager.activeKeyId, [], manager.material⟩ := rfl
  obtain ⟨candidate, inspected⟩ := inspect_database found installation.defaultDataDir
  obtain ⟨generation, stopped⟩ := @generation_firstRun _ manager absent
  refine ⟨⟨.ready candidate.id, [candidate], installation.defaultDataDir⟩, ?_, ?_⟩
  · simp only [prepareDataStore]
    rw [exec_bind generation]
    simp only [prepareDataStore.finish, exec_get_bind, inspected]
    rfl
  · simp only [prepareDataStore]
    rw [stops_bind generation, stopped]
    simp only [prepareDataStore.finish, stops_get_bind, inspected]
    rfl

theorem commit_firstRun {journal : DeviceKeyJournal} (written : disk.journal = some journal)
    (stored : disk.credentials.deviceKeys manager.activeKeyId = some (.readable manager.material))
    (valid : installation.format.validKeyId manager.activeKeyId = true) :
    exec (commitFirstRunKey installation manager) disk none =
        (some (.ok ()), { disk.pointed manager with journal := none }) ∧
      stops (commitFirstRunKey installation manager) disk =
        [disk, disk.journaled (journal.advance .databaseValidated)] ++
        [(disk.pointed manager).journaled (journal.advance .databaseValidated),
          (disk.pointed manager).journaled (journal.advance .activeCommitted),
          (disk.pointed manager).journaled (journal.advance .completed)] := by
  simp [commitFirstRunKey, markFirstRunDatabaseValidated, readJournal, written, writeJournal,
    KeyIdFormat.commitActive, valid, stored, decodeKey, markFirstRunActiveCommitted, removeJournal,
    Disk.pointed, Disk.journaled, DeviceKeyJournal.advance, DeviceKeyJournal.new, exec_map,
    stops_map]

/-- A disk that a first run has not got further with than the key. -/
structure Remains (env : StartupEnv installation) (disk disk' : Disk) : Prop where
  untouched : Untouched disk'
  pointer : disk'.credentials.activePointer = disk.credentials.activePointer
  others : ∀ id, id ≠ env.keyId →
    disk'.credentials.deviceKeys id = disk.credentials.deviceKeys id

theorem remains_of_eq (untouched : Untouched disk) {disk' : Disk}
    (credentials : disk'.credentials = disk.credentials ∨
      disk'.credentials = disk.credentials.setDeviceKey env.keyId env.material)
    (database : disk'.database = disk.database) (configured : disk'.configured = disk.configured)
    (installationMarker : disk'.installationMarker = disk.installationMarker)
    (conversion : disk'.baselineConversionJournal = disk.baselineConversionJournal)
    (activation : disk'.portableActivationJournal = disk.portableActivationJournal) :
    Remains env disk disk' where
  untouched := ⟨database.trans untouched.database, configured.trans untouched.configured,
    installationMarker.trans untouched.installationMarker,
    conversion.trans untouched.baselineConversionJournal,
    activation.trans untouched.portableActivationJournal⟩
  pointer := by
    rcases credentials with same | same
    · rw [same]
    · rw [same]
      rfl
  others := by
    intro id other
    rcases credentials with same | same <;> rw [same]
    exact Function.update_of_ne other ..

/-- The first six states a first run can stop in are still before a first run, in the next
five the database waits for its key to be named, and from then on it is. -/
theorem setup_firstRun (untouched : Untouched disk) (unused : Unused disk.credentials env) :
    ∃ before between after final, stops env.setup disk = before ++ (between ++ after) ∧
      exec env.setup disk none = (some (.ready env.created), final) ∧
      before.length = 6 ∧ between.length = 5 ∧
      (∀ d ∈ before, Remains env disk d) ∧
      (∀ d ∈ between, Orphaned installation env.created d) ∧
      (∀ d ∈ after, Committed installation env.created d) ∧
      Committed installation env.created final := by
  have inspected := inspect_untouched untouched installation.defaultDataDir
  obtain ⟨created, created'⟩ := secret_firstRun untouched unused inspected
  set keyed := disk.keyed env .keyCreated with isKeyed
  have absent : keyed.database = none := untouched.database
  obtain ⟨state, prepared, prepared'⟩ :=
    @prepare_firstRun _ _ env.created absent _ inspected
  set installed := keyed.installed env.created with isInstalled
  have stored : keyed.credentials.deviceKeys env.keyId = some (.readable env.material) :=
    Function.update_self ..
  have written : installed.journal = some (env.journal .keyCreated) := rfl
  obtain ⟨committed, committed'⟩ :=
    @commit_firstRun _ _ env.created _ written stored unused.valid
  have orphaned : ∀ {d : Disk}, d.database = installed.database →
      d.credentials = keyed.credentials → Orphaned installation env.created d := by
    intro d database credentials
    exact {
      database := database
      stored := credentials ▸ stored
      valid := unused.valid
      unnamed := fun pointer isPointer =>
        unused.unnamed pointer ((congrArg (·.activePointer) credentials).symm.trans isPointer) }
  have named : ∀ {d : Disk}, d.database = installed.database →
      d.credentials = (installed.pointed env.created).credentials →
      Committed installation env.created d := by
    intro d database credentials
    exact {
      database := database
      stored := credentials ▸ stored
      valid := unused.valid
      named := credentials ▸ rfl }
  refine ⟨[disk, { disk.keyed env .planned with credentials := disk.credentials },
      disk.keyed env .planned, keyed, keyed.unstaged, keyed.staged env.created],
    [keyed.published env.created, { keyed.published env.created with configured := true },
      installed, installed, installed.journaled (env.journal .databaseValidated)],
    [(installed.pointed env.created).journaled (env.journal .databaseValidated),
      (installed.pointed env.created).journaled (env.journal .activeCommitted),
      (installed.pointed env.created).journaled (env.journal .completed)],
    { installed.pointed env.created with journal := none }, ?_, ?_, rfl, rfl, ?_, ?_, ?_, ?_⟩
  · unfold setup
    rw [stops_get_bind, stops_bind created, created']
    dsimp only
    rw [stops_bind prepared, prepared']
    dsimp only
    rw [stops_bind committed, committed']
    rfl
  · unfold setup
    rw [exec_get_bind, exec_bind created]
    dsimp only
    rw [exec_bind prepared]
    dsimp only
    rw [exec_bind committed]
    rfl
  · simp only [List.forall_mem_cons, List.not_mem_nil, false_implies, implies_true, and_true]
    exact ⟨remains_of_eq untouched (.inl rfl) rfl rfl rfl rfl rfl,
      remains_of_eq untouched (.inl rfl) rfl rfl rfl rfl rfl,
      remains_of_eq untouched (.inr rfl) rfl rfl rfl rfl rfl,
      remains_of_eq untouched (.inr rfl) rfl rfl rfl rfl rfl,
      remains_of_eq untouched (.inr rfl) rfl rfl rfl rfl rfl,
      remains_of_eq untouched (.inr rfl) rfl rfl rfl rfl rfl⟩
  · simp only [List.forall_mem_cons, List.not_mem_nil, false_implies, implies_true, and_true]
    exact ⟨orphaned rfl rfl, orphaned rfl rfl, orphaned rfl rfl, orphaned rfl rfl,
      orphaned rfl rfl⟩
  · simp only [List.forall_mem_cons, List.not_mem_nil, false_implies, implies_true, and_true]
    exact ⟨named rfl rfl, named rfl rfl, named rfl rfl⟩
  · exact named rfl rfl

/-! ### Restarts -/

/-- A startup that crashes after so many durable steps, if it gets that far. -/
def restart (disk : Disk) (start : StartupEnv installation × Nat) : Disk :=
  (exec start.1.setup disk (some start.2)).2

/-- The database is published with the sixth step of a first run and the pointer committed
with the eleventh. -/
def StopsBetween (crash : Nat) : Prop := 6 ≤ crash ∧ crash < 11

instance (crash : Nat) : Decidable (StopsBetween crash) :=
  inferInstanceAs (Decidable (6 ≤ crash ∧ crash < 11))

theorem restart_firstRun (untouched : Untouched disk) (unused : Unused disk.credentials env)
    (crash : Nat) :
    (crash < 6 → Remains env disk (restart disk (env, crash))) ∧
      (StopsBetween crash → Orphaned installation env.created (restart disk (env, crash))) ∧
      (11 ≤ crash → Committed installation env.created (restart disk (env, crash))) := by
  obtain ⟨before, between, after, final, stopped, ended, early, middle, remains, orphaned,
    committed, last⟩ := setup_firstRun untouched unused
  unfold restart
  rw [exec_crash, stopped]
  refine ⟨fun small => ?_, fun amid => ?_, fun large => ?_⟩
  · have inside : crash < before.length := by omega
    rw [List.getElem?_append_left inside, List.getElem?_eq_getElem inside]
    exact remains _ (List.getElem_mem inside)
  · obtain ⟨lower, upper⟩ := amid
    have inside : crash - before.length < between.length := by omega
    rw [List.getElem?_append_right (by omega), List.getElem?_append_left inside,
      List.getElem?_eq_getElem inside]
    exact orphaned _ (List.getElem_mem inside)
  · rw [List.getElem?_append_right (by omega), List.getElem?_append_right (by omega)]
    cases found : after[crash - before.length - between.length]? with
    | none =>
      rw [Option.elim_none, ended]
      exact last
    | some d => exact committed d (List.mem_of_getElem? found)

theorem restart_committed (committed : Committed installation manager disk) (crash : Nat) :
    restart disk (env, crash) = disk := by
  obtain ⟨ended, stopped⟩ := @setup_committed _ _ env _ committed
  unfold restart
  rw [exec_crash, stopped, ended]
  rcases crash with _ | crash <;> rfl

theorem restart_orphaned (orphaned : Orphaned installation manager disk) (crash : Nat) :
    restart disk (env, crash) = disk := by
  obtain ⟨decision, ended, stopped⟩ := @setup_orphaned _ _ env _ orphaned
  unfold restart
  rw [exec_crash, stopped, ended]
  rfl

/-- A disk that no startup changes. -/
theorem run_fixed (fixed : ∀ start : StartupEnv installation × Nat, restart disk start = disk)
    (starts : List (StartupEnv installation × Nat)) : run restart disk starts = disk := by
  induction starts with
  | nil => rfl
  | cons start rest ih => rw [run_cons, fixed, ih]

theorem along_fixed {P : Disk → StartupEnv installation × Nat → Prop}
    (fixed : ∀ start : StartupEnv installation × Nat, restart disk start = disk)
    (holds : ∀ start, P disk start) (starts : List (StartupEnv installation × Nat)) :
    Along restart P disk starts := by
  induction starts with
  | nil => trivial
  | cons start rest ih => exact ⟨holds start, (fixed start).symm ▸ ih⟩

def Database.ownKey (database : Database) : SecretManager :=
  ⟨database.activeKeyId, database.createdUnder⟩

/-- The key that the claim on a startup asks for. -/
def Disk.keyFor (disk : Disk) (env : StartupEnv installation) : SecretManager :=
  disk.database.elim env.created Database.ownKey

/-- An uninterrupted startup ends ready with the key under which the database was created,
or else as a first run that creates one under its own key. -/
def EndsReady (disk : Disk) (env : StartupEnv installation) : Prop :=
  ∃ final, exec env.setup disk none = (some (.ready (disk.keyFor env)), final) ∧
    final.database.map Database.ownKey = some (disk.keyFor env)

theorem endsReady_untouched (untouched : Untouched disk) (unused : Unused disk.credentials env) :
    EndsReady disk env := by
  obtain ⟨_, _, _, final, -, ended, -, -, -, -, -, committed⟩ := setup_firstRun untouched unused
  unfold EndsReady Disk.keyFor
  rw [untouched.database]
  exact ⟨final, ended, by rw [committed.database]; rfl⟩

theorem endsReady_committed (committed : Committed installation manager disk) :
    EndsReady disk env := by
  unfold EndsReady Disk.keyFor
  rw [committed.database]
  exact ⟨disk, (setup_committed committed).1, by rw [committed.database]; rfl⟩

theorem not_endsReady_orphaned (orphaned : Orphaned installation manager disk) :
    ¬ EndsReady disk env := by
  rintro ⟨final, ended, -⟩
  obtain ⟨decision, recovery, -⟩ := @setup_orphaned _ _ env _ orphaned
  rw [recovery] at ended
  cases ended

/-- Whatever is drawn later stays unused. -/
theorem Unused.remains {other : StartupEnv installation} (unused : Unused disk.credentials other)
    {disk' : Disk} (remains : Remains env disk disk') (ne : other.keyId ≠ env.keyId) :
    Unused disk'.credentials other where
  valid := unused.valid
  absent := (remains.others _ ne).trans unused.absent
  unnamed := fun pointer isPointer => unused.unnamed pointer (remains.pointer ▸ isPointer)

/-- After any startups that crash, the next one ends ready with the right key if and only if
no first run among them stopped between the publication of its database and the commit of
the active pointer. -/
theorem first_run_complete (starts : List (StartupEnv installation × Nat))
    (env : StartupEnv installation) (untouched : Untouched disk)
    (unused : ∀ e ∈ starts.map Prod.fst ++ [env], Unused disk.credentials e)
    (distinct : ((starts.map Prod.fst ++ [env]).map (·.keyId)).Nodup) :
    EndsReady (run restart disk starts) env ↔
      Along restart (fun disk start => disk.database = none → ¬ StopsBetween start.2) disk
        starts := by
  induction starts generalizing disk with
  | nil =>
    have now : Unused disk.credentials env := unused env (List.mem_singleton_self env)
    exact iff_of_true (endsReady_untouched untouched now) trivial
  | cons start rest ih =>
    obtain ⟨first, crash⟩ := start
    obtain ⟨now, later⟩ := List.forall_mem_cons.mp unused
    obtain ⟨new, distinct⟩ := List.nodup_cons.mp distinct
    obtain ⟨early, amid, late⟩ := restart_firstRun untouched now crash
    rw [run_cons]
    show _ ↔ (disk.database = none → ¬ StopsBetween crash) ∧ Along restart _ _ rest
    rcases Nat.lt_or_ge crash 6 with small | large
    · have remains := early small
      have still : ∀ e ∈ rest.map Prod.fst ++ [env],
          Unused (restart disk (first, crash)).credentials e := fun e mem =>
        (later e mem).remains remains fun same => new (List.mem_map.mpr ⟨e, mem, same⟩)
      rw [ih remains.untouched still distinct]
      exact (and_iff_right fun _ between => absurd between.1 (by omega)).symm
    · rcases Nat.lt_or_ge crash 11 with inside | beyond
      · have orphaned := amid ⟨large, inside⟩
        rw [run_fixed (fun start => restart_orphaned orphaned start.2)]
        exact iff_of_false (not_endsReady_orphaned orphaned) fun along =>
          along.1 untouched.database ⟨large, inside⟩
      · have committed := late beyond
        have fixed : ∀ start : StartupEnv installation × Nat, restart _ start = _ := fun start =>
          restart_committed committed start.2
        rw [run_fixed fixed]
        refine iff_of_true (endsReady_committed committed) ⟨fun _ between => ?_, ?_⟩
        · exact absurd between.2 (by omega)
        · have found : (restart disk (first, crash)).database ≠ none := by
            rw [committed.database]
            nofun
          exact along_fixed fixed (fun _ absent => absurd absent found) rest

/-! ### The window -/

def isKeyIdChar (c : Char) : Bool := c = '-' || c.isDigit || ('a' ≤ c && c ≤ 'f')

/-- The spelling in which new identities are drawn. -/
def hyphenated (id : String) : Bool := id.toList.length = 36 && id.toList.all isKeyIdChar

theorem isWhitespace_keyIdChar {c : Char} (h : isKeyIdChar c = true) :
    Protocol.isWhitespace c = false := by
  have range : c.toNat = 45 ∨ 48 ≤ c.toNat ∧ c.toNat ≤ 57 ∨ 97 ≤ c.toNat ∧ c.toNat ≤ 102 := by
    simp only [isKeyIdChar, Char.isDigit, Bool.or_eq_true, Bool.and_eq_true, decide_eq_true_eq,
      ge_iff_le, Char.le_def, UInt32.le_iff_toNat_le] at h
    rcases h with (rfl | h) | h
    · exact .inl rfl
    · exact .inr (.inl h)
    · exact .inr (.inr h)
  simp only [Protocol.isWhitespace, decide_eq_false_iff_not]
  omega

theorem trimStart_of_forall {text : List Char}
    (h : ∀ c ∈ text, Protocol.isWhitespace c = false) : Protocol.trimStart text = text := by
  unfold Protocol.trimStart
  cases text with
  | nil => rfl
  | cons c rest => rw [List.dropWhile_cons, h c (List.mem_cons_self ..), if_neg Bool.false_ne_true]

theorem trimmed_hyphenated (id : String) (h : hyphenated id = true) : trimmed id = some id := by
  obtain ⟨length, chars⟩ := Bool.and_eq_true_iff.mp h
  have dense : ∀ c ∈ id.toList, Protocol.isWhitespace c = false := fun c mem =>
    isWhitespace_keyIdChar (List.all_eq_true.mp chars c mem)
  have same : Protocol.trim id = id := by
    have reversed : ∀ c ∈ id.toList.reverse, Protocol.isWhitespace c = false := fun c mem =>
      dense c (List.mem_reverse.mp mem)
    rw [Protocol.trim, trimStart_of_forall dense, trimStart_of_forall reversed,
      List.reverse_reverse, String.ofList_toList]
  have filled : id.isEmpty = false := by
    cases isEmpty : id.isEmpty with
    | false => rfl
    | true =>
      rw [String.isEmpty_iff.mp isEmpty] at length
      exact absurd length (by decide)
  unfold trimmed
  rw [same]
  dsimp only
  rw [filled, if_neg Bool.false_ne_true]

def sampleInstallation : Installation where
  format := ⟨hyphenated, trimmed_hyphenated, by decide⟩
  defaultDataDir := "data"

def emptyDisk : Disk where
  journal := none
  credentials := ⟨none, none, fun _ => none⟩
  staging := none
  database := none
  configured := false
  installationMarker := false
  baselineConversionJournal := false
  portableActivationJournal := false

def firstStart : StartupEnv sampleInstallation := ⟨"019fad3d-631e-76d0-8659-ac335efde02d", 7⟩

def secondStart : StartupEnv sampleInstallation := ⟨"019fad3d-631e-76d0-8659-ac335efde02e", 8⟩

theorem unused_emptyDisk {env : StartupEnv sampleInstallation}
    (valid : hyphenated env.keyId = true) : Unused emptyDisk.credentials env :=
  ⟨valid, rfl, nofun⟩

/-- Stopped before the publication, the next startup is a first run. -/
theorem first_run_complete_early :
    EndsReady (run restart emptyDisk [(firstStart, 5)]) secondStart := by
  refine (first_run_complete [(firstStart, 5)] secondStart ⟨rfl, rfl, rfl, rfl, rfl⟩ ?_ ?_).mpr ?_
  · simp only [List.map_cons, List.map_nil, List.cons_append, List.nil_append,
      List.forall_mem_cons, List.not_mem_nil, false_implies, implies_true, and_true]
    exact ⟨unused_emptyDisk (by decide), unused_emptyDisk (by decide)⟩
  · decide
  · exact ⟨fun _ between => absurd between (by decide), trivial⟩

/-- Stopped right after it, the next startup ends in recovery for a missing key, with the
database and its key both there. -/
theorem key_missing_after_crash :
    let disk := run restart emptyDisk [(firstStart, 6)]
    disk.database.map Database.ownKey = some firstStart.created ∧
      disk.credentials.deviceKeys firstStart.keyId = some (.readable firstStart.material) ∧
      (exec secondStart.setup disk none).1 = some (.recovery (.needsRecovery .missingKey)) := by
  exact ⟨rfl, rfl, rfl⟩

end RelayPool.FirstRun
