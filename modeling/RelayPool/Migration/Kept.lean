import RelayPool.Migration.Outcome

/-! No database is lost.

Whatever the environment and wherever startups and completions stop, the journal and
the files go on belonging together (`step_consistent`). So the old database is at the
active or the rollback path and the new one at the staged or the active path, and no
rename has overwritten a file (`databases_kept`). -/
namespace RelayPool.Migration
open Crash Runs

variable {format : JournalFormat} {op : Operation format} {s : Disk}

/-- The operation as it is left for the next start. -/
structure Prepared (op : Operation format) (s : Disk) : Prop where
  journal : s.journal = some op.journal
  placed : Placed op .before s
  fresh : s.validated = []

theorem Prepared.stands (h : Prepared op s) : Stands op s .prepared none .before := by
  obtain ⟨now, same⟩ := op.journal_eq
  exact ⟨⟨now, h.journal.trans (congrArg some same)⟩, rfl, h.placed⟩

theorem Prepared.underway (h : Prepared op s) {faulty halfway : Prop} :
    Underway op faulty halfway s :=
  .intro h.stands nofun rfl

/-- The activation is underway, or its journal is gone. -/
inductive Consistent (op : Operation format) (faulty halfway : Prop) (s : Disk) : Prop
  | finished {p : Placement} (journal : s.journal = none) (placed : Placed op p s)
  | underway (h : Underway op faulty halfway s)

theorem Consistent.placed {faulty halfway : Prop} (h : Consistent op faulty halfway s) :
    ∃ p, Placed op p s := by
  cases h with
  | finished journal placed => exact ⟨_, placed⟩
  | underway h =>
    obtain ⟨stands, -, -⟩ := h
    exact ⟨_, stands.placed⟩

/-! ### A startup -/

section Startup
variable {faulty halfway : Prop} {env : StartupEnv format} {phase : PortableActivationPhase}
  {id : Option Nat} {p : Placement}

theorem Outcome.underway {s' : Disk} {r : Except ActivationError PortableActivationStartup}
    (h : Outcome op faulty env phase s r s') (before : Underway op faulty halfway s) :
    Underway op faulty halfway s' := by
  cases h with
  | activated stands passed => exact .intro stands nofun ⟨rfl, passed⟩
  | rolledBack stands => exact .intro stands nofun rfl
  | manual stands cause => exact .intro stands (fun _ => cause) cause
  | stuck early found validates stands => exact .intro stands nofun trivial
  | panicked _ _ unsettled stands => exact .intro stands nofun unsettled.allowed
  | completed => exact before

/-- Without a journal there is nothing to recover. -/
theorem meets_noJournal {post : Option (Except ActivationError PortableActivationStartup) → Disk → Prop}
    {safe : Disk → Prop} (journal : s.journal = none) :
    Meets env.recoverPortableActivation s post safe ↔ post (some (.ok .noJournal)) s := by
  unfold StartupEnv.recoverPortableActivation JournalFormat.readJournal
  rw [meets_bind, meets_bind, meets_get, journal]
  rfl

theorem startup_underway (h : Underway op faulty halfway s) (calm : faulty ∨ env.Calm)
    (crash : Option Nat) :
    Underway op faulty halfway (exec env.recoverPortableActivation s crash).2 := by
  obtain ⟨stands, moved, allowed⟩ := h
  have meets := startup_meets stands moved allowed calm
  refine (meets.mono (fun r s' ends => ?_) fun _ safe => safe).keeps crash
  obtain ⟨r, -, outcome⟩ := ends
  exact outcome.underway (.intro stands moved allowed)

theorem startup_consistent (h : Consistent op faulty halfway s) (calm : faulty ∨ env.Calm)
    (crash : Option Nat) :
    Consistent op faulty halfway (exec env.recoverPortableActivation s crash).2 := by
  cases h with
  | finished journal placed =>
    exact ((meets_noJournal journal).mpr (.finished journal placed)).keeps crash
  | underway h => exact .underway (startup_underway h calm crash)

end Startup

/-! ### A completion -/

section Completion
variable {completion : Completion format} {phase : PortableActivationPhase} {id : Option Nat}
  {p : Placement}

theorem exec_readJournal_bind {α : Type} {now : format.Timestamp}
    (journal : s.journal = some (op.journalAt phase id now))
    (shape : validatePhaseShape phase id = .ok ())
    (g : Except PortableActivationJournalError (Option PortableActivationJournal) → Program Disk α)
    (crash : Option Nat) :
    exec (format.readJournal >>= g) s crash =
      exec (g (.ok (some (op.journalAt phase id now)))) s crash := by
  unfold JournalFormat.readJournal
  rw [bind_assoc, exec_get_bind, journal]
  dsimp only
  rw [op.decode_journalAt shape now, pure_bind]
  rfl

theorem exec_writeJournal_bind {α : Type} {now : format.Timestamp}
    (shape : validatePhaseShape phase id = .ok ())
    (g : Except PortableActivationJournalError Unit → Program Disk α) (crash : Option Nat) :
    exec (format.writeJournal (op.journalAt phase id now) >>= g) s crash =
      exec (do
        write fun disk => { disk with journal := some (op.journalAt phase id now) }
        g (.ok ())) s crash := by
  unfold JournalFormat.writeJournal
  rw [op.validate_journalAt shape now]
  dsimp only
  rw [if_neg (op.fits_journalAt phase id now), op.decode_journalAt shape now, bind_assoc]
  rfl

/-- A phase whose shape fits is persisted in one step. -/
theorem exec_persistPhase_bind {α : Type} {env : StartupEnv format} {now : format.Timestamp}
    {next : PortableActivationPhase} {id' : Option Nat}
    (shape : validatePhaseShape next id' = .ok ())
    (g : Except ActivationError PortableActivationJournal → Program Disk α) (crash : Option Nat) :
    exec (env.persistPhase (op.journalAt phase id now) next id' >>= g) s crash =
      exec (do
        write fun disk => { disk with journal := some (op.journalAt next id' env.now) }
        g (.ok (op.journalAt next id' env.now))) s crash := by
  unfold StartupEnv.persistPhase
  rw [op.advance_journalAt, shape]
  dsimp only [Except.map]
  rw [bind_assoc, exec_writeJournal_bind shape]
  refine exec_write_bind_congr (fun crash => ?_) crash
  dsimp only
  rw [bind_assoc, @exec_readJournal_bind _ op _ _ _ _ _ rfl shape]
  rfl

theorem completion_mismatch (stands : Stands op s phase id p)
    (other : op.journal.payload.operationId ≠ completion.operationId) (crash : Option Nat) :
    exec completion.completePortableActivation s crash = (some (.error .operationMismatch), s) := by
  obtain ⟨now, journal⟩ := stands.journal
  have other' : (op.journalAt phase id now).payload.operationId ≠ completion.operationId := other
  unfold Completion.completePortableActivation
  rw [exec_readJournal_bind journal stands.shape]
  dsimp only
  rw [if_pos other', exec_pure]

theorem completion_notReady (stands : Stands op s phase id p)
    (same : op.journal.payload.operationId = completion.operationId)
    (notReady : ¬ Completion.Ready phase) (crash : Option Nat) :
    exec completion.completePortableActivation s crash = (some (.error .notReadyToComplete), s) := by
  obtain ⟨now, journal⟩ := stands.journal
  have same' : ¬ (op.journalAt phase id now).payload.operationId ≠ completion.operationId :=
    not_not.mpr same
  have notReady' : ¬ Completion.Ready (op.journalAt phase id now).payload.phase := notReady
  unfold Completion.completePortableActivation
  rw [exec_readJournal_bind journal stands.shape]
  dsimp only
  rw [if_neg same', if_pos notReady', exec_pure]

/-- The receipt, the completed journal, and no journal. -/
theorem completion_ready (stands : Stands op s phase id p)
    (same : op.journal.payload.operationId = completion.operationId)
    (ready : Completion.Ready phase) (crash : Option Nat) :
    ∃ receipt, exec completion.completePortableActivation s crash =
      match crash with
      | some 0 => (none, s)
      | some 1 => (none, { s with receipt := some receipt })
      | some 2 => (none, { s with
          receipt := some receipt
          journal := some (op.journalAt .completed id completion.now) })
      | _ => (some (.ok ()), { s with receipt := some receipt, journal := none }) := by
  obtain ⟨now, journal⟩ := stands.journal
  have same' : ¬ (op.journalAt phase id now).payload.operationId ≠ completion.operationId :=
    not_not.mpr same
  have ready' : ¬ ¬ Completion.Ready (op.journalAt phase id now).payload.phase := not_not.mpr ready
  have shape : validatePhaseShape .completed id = .ok () := by
    have known := stands.shape
    rcases ready with rfl | rfl <;> exact known
  refine ⟨completion.receipt (op.journalAt phase id now), ?_⟩
  unfold Completion.completePortableActivation
  rw [exec_readJournal_bind journal stands.shape]
  dsimp only
  rw [if_neg same', if_neg ready', op.advance_journalAt]
  have observed : (op.journalAt phase id now).payload.observedRollbackFileId = id := rfl
  rw [observed, shape]
  dsimp only [Except.map]
  rcases crash with _ | _ | n
  · rw [exec_write_bind, exec_writeJournal_bind shape]
    rfl
  · rfl
  · rw [exec_write_bind_succ, exec_writeJournal_bind shape]
    rcases n with _ | _ | n
    · rfl
    · rfl
    · rfl

theorem completion_noJournal (journal : s.journal = none) (crash : Option Nat) :
    exec completion.completePortableActivation s crash = (some (.ok ()), s) := by
  unfold Completion.completePortableActivation JournalFormat.readJournal
  rw [bind_assoc, exec_get_bind, journal]
  dsimp only
  rw [pure_bind]
  exact exec_pure ..

/-- The completion stops with its completed journal in place. -/
def StopsHalfway (s : Disk) (completion : Completion format) (crash : Option Nat) : Prop :=
  crash = some 2 ∧ ∃ journal, s.journal = some journal ∧
    journal.payload.operationId = completion.operationId ∧ Completion.Ready journal.payload.phase

/-- What any other completion leaves: the disk as it was, a receipt, or no journal. -/
theorem completion_whole (stands : Stands op s phase id p) {crash : Option Nat}
    (whole : ¬ StopsHalfway s completion crash) :
    ∃ receipt, (exec completion.completePortableActivation s crash).2 = s ∨
      (exec completion.completePortableActivation s crash).2 = { s with receipt := receipt } ∨
      (exec completion.completePortableActivation s crash).2 =
        { s with receipt := receipt, journal := none } := by
  by_cases same : op.journal.payload.operationId = completion.operationId
  · by_cases ready : Completion.Ready phase
    · obtain ⟨receipt, exec⟩ := completion_ready stands same ready crash
      obtain ⟨now, journal⟩ := stands.journal
      refine ⟨some receipt, ?_⟩
      rw [exec]
      match crash with
      | some 0 => exact .inl rfl
      | some 1 => exact .inr (.inl rfl)
      | some 2 => exact absurd ⟨rfl, _, journal, same, ready⟩ whole
      | none | some (n + 3) => exact .inr (.inr rfl)
    · rw [completion_notReady stands same ready]
      exact ⟨none, .inl rfl⟩
  · rw [completion_mismatch stands same]
    exact ⟨none, .inl rfl⟩

theorem completion_consistent {faulty halfway : Prop} (h : Consistent op faulty halfway s)
    {crash : Option Nat} (whole : halfway ∨ ¬ StopsHalfway s completion crash) :
    Consistent op faulty halfway (exec completion.completePortableActivation s crash).2 := by
  cases h with
  | finished journal placed =>
    rw [completion_noJournal journal]
    exact .finished journal placed
  | underway h =>
    have before : Consistent op faulty halfway s := .underway h
    obtain @⟨phase, id, p, stands, moved, allowed⟩ := h
    by_cases stops : StopsHalfway s completion crash
    · have cause := whole.resolve_right fun not => not stops
      obtain ⟨rfl, journal, found, same, ready⟩ := stops
      obtain ⟨now, journal'⟩ := stands.journal
      obtain rfl : journal = op.journalAt phase id now :=
        Option.some.inj (found.symm.trans journal')
      have ready : Completion.Ready phase := ready
      have shape : validatePhaseShape .completed id = .ok () := by
        have known := stands.shape
        rcases ready with rfl | rfl <;> exact known
      obtain ⟨receipt, exec⟩ := completion_ready stands same ready (some 2)
      rw [exec]
      refine .underway
        (.intro ⟨⟨completion.now, rfl⟩, shape, stands.placed.of_files rfl rfl⟩ moved ?_)
      rcases ready with rfl | rfl
      · exact ⟨cause, .inl allowed⟩
      · exact ⟨cause, .inr allowed⟩
    · obtain ⟨receipt, same | receipted | removed⟩ := completion_whole stands stops
      · rw [same]
        exact before
      · rw [receipted]
        exact .underway
          (.intro ⟨stands.journal, stands.shape, stands.placed.of_files rfl rfl⟩ moved allowed)
      · rw [removed]
        exact .finished rfl (stands.placed.of_files rfl rfl)

end Completion

/-! ### Runs -/

theorem step_consistent {faulty halfway : Prop} (h : Consistent op faulty halfway s)
    {event : ActivationEvent format}
    (calm : ∀ env crash, event = .startup env crash → faulty ∨ env.Calm)
    (whole : ∀ completion crash, event = .complete completion crash →
      halfway ∨ ¬ StopsHalfway s completion crash) :
    Consistent op faulty halfway (activationStep s event) := by
  cases event with
  | startup env crash => exact startup_consistent h (calm env crash rfl) crash
  | complete completion crash => exact completion_consistent h (whole completion crash rfl)

/-- Each database is where it was or where it belongs, and no file was overwritten. -/
structure DatabasesKept (op : Operation format) (s : Disk) : Prop where
  old : s.files op.journal.payload.active.path = some op.old ∨
    s.files op.journal.payload.rollback.path = some op.old
  new : s.files op.journal.payload.staged.path = some op.new ∨
    s.files op.journal.payload.active.path = some op.new
  overwritten : s.overwritten = []

theorem Placed.kept {p : Placement} (h : Placed op p s) : DatabasesKept op s := by
  cases p with
  | before => exact ⟨.inl h.active, .inl h.staged, h.untouched⟩
  | between => exact ⟨.inr h.rollback, .inl h.staged, h.untouched⟩
  | after => exact ⟨.inr h.rollback, .inr h.active, h.untouched⟩

/-- No database is lost, at any moment of any run. -/
theorem databases_kept (op : Operation format) {s : Disk} (prepared : Prepared op s)
    (events : List (ActivationEvent format)) : DatabasesKept op (diskAfter s events) := by
  have preserved : ∀ s (event : ActivationEvent format), Consistent op True True s →
      Consistent op True True (activationStep s event) := fun s event h =>
    step_consistent h (fun _ _ _ => .inl trivial) fun _ _ _ => .inl trivial
  obtain ⟨p, placed⟩ := (run_invariant preserved (.underway prepared.underway) events).placed
  exact placed.kept

/-! ### A sample activation -/

def sampleFormat : JournalFormat where
  isUuidV7 text := text == "019909a2-7c00-7000-8000-000000000001"
  isRfc3339 text := text == "2026-08-29T00:00:00.000Z"
  isAbsolute path := path.toList.head? == some '/'
  checksumPayload payload := payload.operationId ++ payload.updatedAt
  encodedLength _ := 2048

def sampleNow : sampleFormat.Timestamp := ⟨"2026-08-29T00:00:00.000Z", rfl⟩

def oldDatabase : FileIdentity :=
  ⟨none, none, 3, "cba06b5736faf67e54b07b561eae94395e774c517a7d910a54369e1263ccfbd4"⟩

def newDatabase : FileIdentity :=
  ⟨none, none, 3, "11507a0e2f5e69d5dfa40a62a1bd7b6ee57e6bcd85c67c9b8431b36fff21c437"⟩

def backupDatabase : FileIdentity :=
  ⟨none, none, 6, "54d00d867758cef816bc4685f58e327b949712b07ebd17c3485f3ffc9e9f5133"⟩

def samplePayload : PortableActivationPayload where
  operationId := "019909a2-7c00-7000-8000-000000000001"
  phase := .prepared
  mode := "replaceCurrent"
  createdAt := sampleNow.1
  updatedAt := sampleNow.1
  targetDeviceKeyId := "target-device-key"
  active := .fromIdentity "/data/active.sqlite3" oldDatabase
  staged := .fromIdentity "/data/staged.sqlite3" newDatabase
  rollback := .fromIdentity "/data/rollback.sqlite3" oldDatabase
  backup := .fromIdentity "/data/backup.sqlite3" backupDatabase
  observedRollbackFileId := none

def sampleOperation : Operation sampleFormat where
  journal := ⟨journalVersion, sampleFormat.checksumPayload samplePayload, samplePayload⟩
  old := oldDatabase
  new := newDatabase
  kept := backupDatabase
  valid := by decide +kernel
  prepared := rfl
  fits _ _ _ := show 2048 ≤ maxJournalBytes by decide
  active_old := by decide +kernel
  staged_new := by decide +kernel
  rollback_old := by decide +kernel
  backup_kept := by decide +kernel
  distinct := by decide +kernel

def sampleDisk : Disk where
  journal := some sampleOperation.journal
  receipt := none
  files path :=
    if path = "/data/active.sqlite3" then some oldDatabase
    else if path = "/data/staged.sqlite3" then some newDatabase
    else if path = "/data/backup.sqlite3" then some backupDatabase
    else none
  overwritten := []
  validated := []

theorem sampleDisk_prepared : Prepared sampleOperation sampleDisk := by
  constructor
  · rfl
  · constructor <;> decide +kernel
  · rfl

/-- Nothing goes wrong but, maybe, the validation of the file. -/
def calmEnv (validates insideRuntime : Bool) : StartupEnv sampleFormat where
  now := sampleNow
  pathsAccepted := true
  approves _ := true
  atomicReplace := true
  replaceFault := none
  sqliteValidates := validates
  keyKnown := true
  secretsDecrypt := true
  insideRuntime := insideRuntime

theorem calmEnv_calm (validates insideRuntime : Bool) : (calmEnv validates insideRuntime).Calm :=
  ⟨rfl, fun _ => rfl, rfl, rfl⟩

/-- A crash between the two moves of a replacement that is not atomic. -/
theorem databases_kept_between :
    DatabasesKept sampleOperation
      (diskAfter sampleDisk
        [.startup { calmEnv true true with atomicReplace := false } (some 2),
          .startup (calmEnv true true) none]) :=
  databases_kept sampleOperation sampleDisk_prepared _

end RelayPool.Migration
