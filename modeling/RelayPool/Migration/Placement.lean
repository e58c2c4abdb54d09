import RelayPool.Migration.Recovery

/-! Where the two databases are.

Activation moves two files between three paths, and so does a rollback, with the paths
in other roles. Before the replacement the old database is active and the new one
staged; after it the new one is active and the old one at the rollback path. Between
the moves of either direction the files stand alike: nothing is active, and each
database is at the path it is not active from (`Placed.park`, `Placed.unpark`). -/
namespace RelayPool.Migration
open Crash

/-! ### An operation and its files -/

/-- An activation that was prepared with intact artifacts. -/
structure Operation (format : JournalFormat) where
  journal : PortableActivationJournal
  old : FileIdentity
  new : FileIdentity
  kept : FileIdentity
  valid : format.validate journal = .ok ()
  prepared : journal.payload.phase = .prepared
  /-- The journal has room for every phase. -/
  fits : ∀ phase id now, format.encodedLength (format.advanced journal phase id now) ≤ maxJournalBytes
  active_old : journal.payload.active.matchesIdentity old = true
  staged_new : journal.payload.staged.matchesIdentity new = true
  rollback_old : journal.payload.rollback.matchesIdentity old = true
  backup_kept : journal.payload.backup.matchesIdentity kept = true
  distinct : [journal.payload.active.path, journal.payload.staged.path,
    journal.payload.rollback.path, journal.payload.backup.path].Nodup

inductive Placement
  | before
  | between
  | after
deriving DecidableEq, Repr

namespace Operation
variable {format : JournalFormat} (op : Operation format)

/-- The operation's journal at a phase. -/
def journalAt (phase : PortableActivationPhase) (id : Option Nat) (now : format.Timestamp) :
    PortableActivationJournal := format.advanced op.journal phase id now

@[simp] theorem journalAt_active (phase : PortableActivationPhase) (id : Option Nat)
    (now : format.Timestamp) :
    (op.journalAt phase id now).payload.active = op.journal.payload.active := rfl

@[simp] theorem journalAt_staged (phase : PortableActivationPhase) (id : Option Nat)
    (now : format.Timestamp) :
    (op.journalAt phase id now).payload.staged = op.journal.payload.staged := rfl

@[simp] theorem journalAt_rollback (phase : PortableActivationPhase) (id : Option Nat)
    (now : format.Timestamp) :
    (op.journalAt phase id now).payload.rollback = op.journal.payload.rollback := rfl

/-- What is at the active, the staged and the rollback path. -/
def files : Placement → Option FileIdentity × Option FileIdentity × Option FileIdentity
  | .before => (some op.old, some op.new, none)
  | .between => (none, some op.new, some op.old)
  | .after => (some op.new, none, some op.old)

end Operation

section Placed
variable {format : JournalFormat} {op : Operation format} {s : Disk}

structure Placed (op : Operation format) (p : Placement) (s : Disk) : Prop where
  active : s.files op.journal.payload.active.path = (op.files p).1
  staged : s.files op.journal.payload.staged.path = (op.files p).2.1
  rollback : s.files op.journal.payload.rollback.path = (op.files p).2.2
  backup : s.files op.journal.payload.backup.path = some op.kept
  untouched : s.overwritten = []

/-- The files are looked at, not the journal or the validations. -/
theorem Placed.of_files {p : Placement} {s' : Disk} (h : Placed op p s) (files : s'.files = s.files)
    (overwritten : s'.overwritten = s.overwritten) : Placed op p s' :=
  ⟨files ▸ h.active, files ▸ h.staged, files ▸ h.rollback, files ▸ h.backup,
    overwritten ▸ h.untouched⟩

theorem Disk.renamed_source {s : Disk} {source destination : String} (h : source ≠ destination) :
    (s.renamed source destination).files source = none := by
  simp [Disk.renamed, Function.update_of_ne h]

theorem Disk.renamed_destination (s : Disk) (source destination : String) :
    (s.renamed source destination).files destination = s.files source :=
  Function.update_self ..

theorem Disk.renamed_other {s : Disk} {source destination path : String} (hs : path ≠ source)
    (hd : path ≠ destination) : (s.renamed source destination).files path = s.files path := by
  simp [Disk.renamed, Function.update_of_ne hs, Function.update_of_ne hd]

theorem Disk.renamed_overwritten {s : Disk} {source destination : String}
    (h : s.files destination = none) :
    (s.renamed source destination).overwritten = s.overwritten := by
  simp [Disk.renamed, h]

/-- The paths of an operation are four. -/
structure PathsDistinct (payload : PortableActivationPayload) : Prop where
  activeStaged : payload.active.path ≠ payload.staged.path
  activeRollback : payload.active.path ≠ payload.rollback.path
  activeBackup : payload.active.path ≠ payload.backup.path
  stagedRollback : payload.staged.path ≠ payload.rollback.path
  stagedBackup : payload.staged.path ≠ payload.backup.path
  rollbackBackup : payload.rollback.path ≠ payload.backup.path

theorem Operation.paths (op : Operation format) : PathsDistinct op.journal.payload := by
  have distinct := op.distinct
  simp only [List.nodup_cons, List.mem_cons, List.not_mem_nil, or_false, not_or] at distinct
  obtain ⟨⟨h1, h2, h3⟩, ⟨h4, h5⟩, h6, -⟩ := distinct
  exact ⟨h1, h2, h3, h4, h5, h6⟩

/-- The first move of an activation, and of no other file. -/
theorem Placed.park (h : Placed op .before s) :
    Placed op .between
      (s.renamed op.journal.payload.active.path op.journal.payload.rollback.path) where
  active := Disk.renamed_source op.paths.activeRollback
  staged := (Disk.renamed_other op.paths.activeStaged.symm op.paths.stagedRollback).trans h.staged
  rollback := (Disk.renamed_destination ..).trans h.active
  backup := (Disk.renamed_other op.paths.activeBackup.symm op.paths.rollbackBackup.symm).trans h.backup
  untouched := (Disk.renamed_overwritten h.rollback).trans h.untouched

/-- Its second move. -/
theorem Placed.install (h : Placed op .between s) :
    Placed op .after
      (s.renamed op.journal.payload.staged.path op.journal.payload.active.path) where
  active := (Disk.renamed_destination ..).trans h.staged
  staged := Disk.renamed_source op.paths.activeStaged.symm
  rollback := (Disk.renamed_other op.paths.stagedRollback.symm op.paths.activeRollback.symm).trans
    h.rollback
  backup := (Disk.renamed_other op.paths.stagedBackup.symm op.paths.activeBackup.symm).trans h.backup
  untouched := (Disk.renamed_overwritten h.active).trans h.untouched

/-- The first move of a rollback. -/
theorem Placed.unpark (h : Placed op .after s) :
    Placed op .between
      (s.renamed op.journal.payload.active.path op.journal.payload.staged.path) where
  active := Disk.renamed_source op.paths.activeStaged
  staged := (Disk.renamed_destination ..).trans h.active
  rollback := (Disk.renamed_other op.paths.activeRollback.symm op.paths.stagedRollback.symm).trans
    h.rollback
  backup := (Disk.renamed_other op.paths.activeBackup.symm op.paths.stagedBackup.symm).trans h.backup
  untouched := (Disk.renamed_overwritten h.staged).trans h.untouched

/-- Its second move. -/
theorem Placed.restore (h : Placed op .between s) :
    Placed op .before
      (s.renamed op.journal.payload.rollback.path op.journal.payload.active.path) where
  active := (Disk.renamed_destination ..).trans h.rollback
  staged := (Disk.renamed_other op.paths.stagedRollback op.paths.activeStaged.symm).trans h.staged
  rollback := Disk.renamed_source op.paths.activeRollback.symm
  backup := (Disk.renamed_other op.paths.rollbackBackup.symm op.paths.activeBackup.symm).trans h.backup
  untouched := (Disk.renamed_overwritten h.active).trans h.untouched

end Placed

/-! ### What the programs do -/

namespace Operation
variable {format : JournalFormat} (op : Operation format)

theorem fixed : format.FixedPart op.journal.payload :=
  JournalFormat.fixedPart_of_valid (JournalFormat.validate_ok.mp op.valid).2.1

theorem fits_journalAt (phase : PortableActivationPhase) (id : Option Nat) (now : format.Timestamp) :
    ¬ maxJournalBytes < format.encodedLength (op.journalAt phase id now) :=
  Nat.not_lt.mpr (op.fits phase id now)

theorem validate_journalAt {phase : PortableActivationPhase} {id : Option Nat}
    (shape : validatePhaseShape phase id = .ok ()) (now : format.Timestamp) :
    format.validate (op.journalAt phase id now) = .ok () :=
  JournalFormat.validate_advanced op.fixed shape

theorem decode_journalAt {phase : PortableActivationPhase} {id : Option Nat}
    (shape : validatePhaseShape phase id = .ok ()) (now : format.Timestamp) :
    format.decodeJournal (op.journalAt phase id now) = .ok (op.journalAt phase id now) := by
  unfold JournalFormat.decodeJournal
  rw [if_neg (op.fits_journalAt phase id now), op.validate_journalAt shape]
  rfl

/-- The operation's journal, as it was prepared. -/
theorem journal_eq : ∃ now, op.journal = op.journalAt .prepared none now := by
  obtain ⟨now, same⟩ := JournalFormat.advanced_self op.valid
  have shape := JournalFormat.shape_of_valid (JournalFormat.validate_ok.mp op.valid).2.1
  rw [op.prepared] at same shape
  cases id : op.journal.payload.observedRollbackFileId with
  | none =>
    rw [id] at same
    exact ⟨now, same⟩
  | some _ =>
    rw [id] at shape
    cases shape

theorem advance_journalAt (phase next : PortableActivationPhase) (id id' : Option Nat)
    (now now' : format.Timestamp) :
    format.advance (op.journalAt phase id now) next id' now' =
      (validatePhaseShape next id').map fun _ => op.journalAt next id' now' :=
  JournalFormat.advance_eq (op.fixed.advanced phase id now) next id' now'

end Operation

section Specs
variable {format : JournalFormat} (op : Operation format) (env : StartupEnv format) {s : Disk}
  {safe : Disk → Prop} {phase next : PortableActivationPhase} {id id' : Option Nat}
  {now : format.Timestamp}

theorem meets_readJournal
    {post : Except PortableActivationJournalError (Option PortableActivationJournal) → Disk → Prop}
    (shape : validatePhaseShape phase id = .ok ())
    (hjournal : s.journal = some (op.journalAt phase id now)) :
    Meets format.readJournal s post safe ↔ post (.ok (some (op.journalAt phase id now))) s := by
  unfold JournalFormat.readJournal
  rw [meets_bind, meets_get, hjournal]
  dsimp only
  rw [op.decode_journalAt shape now, meets_pure]
  rfl

theorem meets_writeJournal {post : Except PortableActivationJournalError Unit → Disk → Prop}
    (shape : validatePhaseShape phase id = .ok ()) :
    Meets (format.writeJournal (op.journalAt phase id now)) s post safe ↔
      safe s ∧ post (.ok ()) { s with journal := some (op.journalAt phase id now) } := by
  unfold JournalFormat.writeJournal
  rw [op.validate_journalAt shape now]
  dsimp only
  rw [if_neg (op.fits_journalAt phase id now), meets_bind, meets_write, meets_pure,
    op.decode_journalAt shape now]
  rfl

/-- A phase whose shape fits is persisted in one step. -/
theorem meets_persistPhase {post : Except ActivationError PortableActivationJournal → Disk → Prop}
    (shape : validatePhaseShape next id' = .ok ()) :
    Meets (env.persistPhase (op.journalAt phase id now) next id') s post safe ↔
      safe s ∧ post (.ok (op.journalAt next id' env.now))
        { s with journal := some (op.journalAt next id' env.now) } := by
  unfold StartupEnv.persistPhase
  rw [op.advance_journalAt, shape]
  dsimp only [Except.map]
  rw [meets_bind, meets_writeJournal op shape]
  dsimp only
  rw [meets_bind, meets_readJournal op shape rfl]
  rfl

/-- A phase whose shape does not fit is refused. -/
theorem meets_persistPhase_refused
    {post : Except ActivationError PortableActivationJournal → Disk → Prop}
    {e : PortableActivationJournalError} (shape : validatePhaseShape next id' = .error e) :
    Meets (env.persistPhase (op.journalAt phase id now) next id') s post safe ↔
      post (.error (.journal e)) s := by
  unfold StartupEnv.persistPhase
  rw [op.advance_journalAt, shape]
  rfl

theorem meets_markManual {post : PortableActivationStartup → Disk → Prop}
    {reason : PortableActivationManualReason} :
    Meets (env.markManual (op.journalAt phase id now) reason) s post safe ↔
      safe s ∧ post (.manualRecoveryRequired reason)
        { s with journal := some (op.journalAt .manualRecoveryRequired id env.now) } := by
  unfold StartupEnv.markManual
  rw [op.advance_journalAt]
  show Meets (format.writeJournal (op.journalAt .manualRecoveryRequired id env.now) >>= _) s post
    safe ↔ _
  rw [meets_bind, meets_writeJournal op rfl]
  rfl

theorem meets_rename {source destination : String} {post : Except AtomicFileError Unit → Disk → Prop}
    (present : s.files source ≠ none) :
    Meets (rename source destination) s post safe ↔
      safe s ∧ post (.ok ()) (s.renamed source destination) := by
  unfold rename
  rw [meets_bind, meets_get, if_neg (by simpa using present), meets_bind, meets_write, meets_pure]

/-- The two moves, or a part of them and an error. -/
theorem meets_replaceExisting {replacement active backup : String}
    {post : Except AtomicFileError Unit → Disk → Prop} (hactive : s.files active ≠ none)
    (hreplacement : (s.renamed active backup).files replacement ≠ none) (start : safe s)
    (between : env.atomicReplace = false → safe (s.renamed active backup))
    (failed : env.replaceFault ≠ none → ∀ e, post (.error e) s ∧
      post (.error e) (s.renamed active backup))
    (done : post (.ok ()) ((s.renamed active backup).renamed replacement active)) :
    Meets (env.replaceExistingFileWithBackup replacement active backup) s post safe := by
  unfold StartupEnv.replaceExistingFileWithBackup
  by_cases none : env.replaceFault = some 0
  · rw [if_pos none, meets_pure]
    exact (failed (by rw [none]; exact nofun) _).1
  · rw [if_neg none]
    by_cases atomic : (env.atomicReplace && env.replaceFault != some 1) = true
    · rw [if_pos atomic, meets_bind, meets_write, meets_pure]
      exact ⟨start, done⟩
    · rw [if_neg atomic, meets_bind, meets_rename hactive]
      refine ⟨start, ?_⟩
      dsimp only
      by_cases one : env.replaceFault = some 1
      · rw [if_pos one, meets_pure]
        exact (failed (by rw [one]; exact nofun) _).2
      · have twoMoves : env.atomicReplace = false := by simpa [one] using atomic
        rw [if_neg one, meets_rename hreplacement]
        exact ⟨between twoMoves, done⟩

/-- A replacement that is tried with its three paths as it needs them. -/
theorem meets_replace {replacement active backup : String} {new old : FileIdentity}
    {post : Except AtomicFileError DatabaseReplaceEvidence → Disk → Prop}
    (hactive : s.files active = some old) (hbackup : s.files backup = none)
    (hreplacement : s.files replacement = some new) (ne : active ≠ replacement)
    (ne' : backup ≠ replacement) (ne'' : backup ≠ active) (start : safe s)
    (between : env.atomicReplace = false → safe (s.renamed active backup))
    (failed : env.replaceFault ≠ none → ∀ e, post (.error e) s ∧
      post (.error e) (s.renamed active backup) ∧
      post (.error e) ((s.renamed active backup).renamed replacement active))
    (done : post (.ok ⟨new, old⟩) ((s.renamed active backup).renamed replacement active)) :
    Meets (env.replaceDatabaseWithRollback replacement active backup) s post safe := by
  have replacementStays : (s.renamed active backup).files replacement = some new :=
    (Disk.renamed_other ne.symm ne'.symm).trans hreplacement
  have newActive : ((s.renamed active backup).renamed replacement active).files active = some new :=
    (Disk.renamed_destination ..).trans replacementStays
  have oldParked : ((s.renamed active backup).renamed replacement active).files backup = some old :=
    (Disk.renamed_other ne' ne'').trans ((Disk.renamed_destination ..).trans hactive)
  unfold StartupEnv.replaceDatabaseWithRollback
  rw [meets_bind, meets_get, hactive, hbackup, hreplacement]
  simp only [Option.isNone_some, Option.isSome_none, Bool.false_eq_true, if_false]
  rw [meets_bind]
  refine meets_replaceExisting env (by rw [hactive]; exact nofun)
    (by rw [replacementStays]; exact nofun) start between
    (fun fault e => ⟨(failed fault e).1, (failed fault e).2.1⟩) ?_
  dsimp only
  by_cases two : env.replaceFault = some 2
  · rw [if_pos two, meets_pure]
    exact (failed (by rw [two]; exact nofun) _).2.2
  · rw [if_neg two, meets_bind, meets_get, newActive, oldParked]
    exact done

end Specs

end RelayPool.Migration
