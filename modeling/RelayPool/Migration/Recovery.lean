import RelayPool.Migration.Disk
import RelayPool.Runs

/-! Recovering a portable activation.

At every start the journal's phase and the files found decide what is left to do:
replace the active database, validate the new one, put the old one back, or give the
installation to its user for manual recovery. A startup that is told the outcome
completes the activation with a receipt and removes the journal.

A startup or a completion may crash before each of its durable steps, and the next
startup goes on from what it left. -/
namespace RelayPool.Migration
open Crash

inductive PortableActivationManualReason
  | pathRejected
  | missingArtifact
  | identityMismatch
  | replacementFailed
  | newActiveInvalid
  | rollbackFailed
deriving DecidableEq, Repr

inductive PortableActivationStartup
  | noJournal
  | activated (operationId targetKeyId : String)
  | rolledBack (operationId : String)
  | manualRecoveryRequired (reason : PortableActivationManualReason)
deriving DecidableEq, Repr

inductive RecoveryPlan
  | replaceStaged
  | validateNewActive
  | completeAlreadyValidated
  | keepRolledBack
  | manual (reason : PortableActivationManualReason)
deriving DecidableEq, Repr

/-- The texts that a startup or a completion fails with, and the panic that ends a startup
without one. -/
inductive ActivationError
  | journal (error : PortableActivationJournalError)
  | malformed (error : PortableActivationJournalError)
  | unsupportedVersion
  | journalDisappeared
  | operationMismatch
  | notReadyToComplete
  | panicked
deriving DecidableEq, Repr

structure ObservedArtifacts where
  active : Option FileIdentity
  staged : Option FileIdentity
  rollback : Option FileIdentity
  backup : Option FileIdentity
deriving DecidableEq, Repr

def observeArtifacts (journal : PortableActivationJournal) (files : String → Option FileIdentity) :
    ObservedArtifacts where
  active := files journal.payload.active.path
  staged := files journal.payload.staged.path
  rollback := files journal.payload.rollback.path
  backup := files journal.payload.backup.path

def PortableActivationArtifact.isAt (artifact : PortableActivationArtifact)
    (found : Option FileIdentity) : Bool := found.any artifact.matchesIdentity

def planRecovery (journal : PortableActivationJournal) (observed : ObservedArtifacts) :
    RecoveryPlan :=
  let activeOld := journal.payload.active.isAt observed.active
  let activeNew := journal.payload.staged.isAt observed.active
  let stagedNew := journal.payload.staged.isAt observed.staged
  let rollbackOld := journal.payload.rollback.isAt observed.rollback
  let backupOk := journal.payload.backup.isAt observed.backup
  if !backupOk then
    .manual .missingArtifact
  else
    match journal.payload.phase with
    | .prepared | .activationStarted =>
      if activeOld && stagedNew then .replaceStaged
      else if activeNew && rollbackOld then .validateNewActive
      else .manual .identityMismatch
    | .replacementCommitted | .rollbackStarted =>
      if activeNew && rollbackOld then .validateNewActive
      else if activeOld && stagedNew then .replaceStaged
      else .manual .identityMismatch
    | .activatedValidated =>
      if activeNew && rollbackOld then .completeAlreadyValidated
      else .manual .identityMismatch
    | .rolledBack => if activeOld then .keepRolledBack else .manual .identityMismatch
    | .manualRecoveryRequired => .manual .identityMismatch
    | .completed => .completeAlreadyValidated

namespace StartupEnv
variable {format : JournalFormat} (env : StartupEnv format)

/-! ### Writing a phase -/

def persistPhase (journal : PortableActivationJournal) (phase : PortableActivationPhase)
    (observedRollbackFileId : Option Nat) :
    Program Disk (Except ActivationError PortableActivationJournal) := do
  match format.advance journal phase observedRollbackFileId env.now with
  | .error e => return .error (.journal e)
  | .ok next =>
    match ← format.writeJournal next with
    | .error e => return .error (.journal e)
    | .ok () =>
      match ← format.readJournal with
      | .error e => return .error (.journal e)
      | .ok none => return .error .journalDisappeared
      | .ok (some journal) => return .ok journal

/-- A journal that cannot be written stays as it is. -/
def markManual (journal : PortableActivationJournal) (reason : PortableActivationManualReason) :
    Program Disk PortableActivationStartup := do
  match format.advance journal .manualRecoveryRequired journal.payload.observedRollbackFileId
      env.now with
  | .error _ => let _ ← format.writeJournal journal
  | .ok manual => let _ ← format.writeJournal manual
  return .manualRecoveryRequired reason

/-! ### One turn of the recovery -/

/-- The recovery plans again, or ends. -/
inductive Turn
  | again (journal : PortableActivationJournal)
  | ended (result : Except ActivationError PortableActivationStartup)

def replaceStaged (journal : PortableActivationJournal) : Program Disk Turn := do
  match ← env.persistPhase journal .activationStarted none with
  | .error e => return .ended (.error e)
  | .ok journal =>
    if !env.approves journal.payload.active.path then
      return .ended (.ok (← env.markManual journal .pathRejected))
    else if !env.approves journal.payload.rollback.path then
      return .ended (.ok (← env.markManual journal .pathRejected))
    else
      match ← env.replaceDatabaseWithRollback journal.payload.staged.path
          journal.payload.active.path journal.payload.rollback.path with
      | .error _ => return .ended (.ok (← env.markManual journal .replacementFailed))
      | .ok evidence =>
        if !journal.payload.staged.matchesIdentity evidence.active ||
            !journal.payload.rollback.matchesIdentity evidence.rollback then
          return .ended (.ok (← env.markManual journal .identityMismatch))
        else
          match ← env.persistPhase journal .replacementCommitted
              (evidence.rollback.fileId.or (some evidence.rollback.length)) with
          | .error e => return .ended (.error e)
          | .ok journal => return .again journal

def rollbackOrManual (journal : PortableActivationJournal) :
    Program Disk (Except ActivationError PortableActivationStartup) := do
  let disk ← get
  let observed := observeArtifacts journal disk.files
  if !(journal.payload.staged.isAt observed.active &&
      journal.payload.rollback.isAt observed.rollback) then
    return .ok (← env.markManual journal .newActiveInvalid)
  else
    match ← env.persistPhase journal .rollbackStarted
        (journal.payload.observedRollbackFileId.or (some 0)) with
    | .error e => return .error e
    | .ok rollbackStarted =>
      if !env.approves rollbackStarted.payload.active.path then
        return .ok (← env.markManual rollbackStarted .pathRejected)
      else if !env.approves rollbackStarted.payload.staged.path then
        return .ok (← env.markManual rollbackStarted .pathRejected)
      else
        match ← env.replaceDatabaseWithRollback rollbackStarted.payload.rollback.path
            rollbackStarted.payload.active.path rollbackStarted.payload.staged.path with
        | .error _ => return .ok (← env.markManual rollbackStarted .rollbackFailed)
        | .ok evidence =>
          if !rollbackStarted.payload.active.matchesIdentity evidence.active then
            return .ok (← env.markManual rollbackStarted .rollbackFailed)
          else
            match ← env.persistPhase rollbackStarted .rolledBack
                rollbackStarted.payload.observedRollbackFileId with
            | .error e => return .error e
            | .ok rolledBack => return .ok (.rolledBack rolledBack.payload.operationId)

def activated (journal : PortableActivationJournal) : PortableActivationStartup :=
  .activated journal.payload.operationId journal.payload.targetDeviceKeyId

inductive Validation
  | passed
  | failed
  | panicked
deriving DecidableEq, Repr

/-- The secrets are read in a `block_on` of their own, which panics inside a runtime. -/
def validateDatabaseSecretsTyped : Validation :=
  if env.insideRuntime then .panicked else if env.secretsDecrypt then .passed else .failed

def validateNewActive : Validation :=
  if !env.sqliteValidates then .failed
  else if !env.keyKnown then .failed
  else env.validateDatabaseSecretsTyped

/-- A database that validates is noted as such. -/
def settleNewActive (journal : PortableActivationJournal) :
    Program Disk (Except ActivationError PortableActivationStartup) := do
  match env.validateNewActive with
  | .panicked => return .error .panicked
  | .failed => env.rollbackOrManual journal
  | .passed =>
    note fun disk => { disk with
      validated := disk.validated ++ (disk.files journal.payload.active.path).toList }
    match ← env.persistPhase journal .activatedValidated
        journal.payload.observedRollbackFileId with
    | .error e => return .error e
    | .ok journal => return .ok (activated journal)

def turn (journal : PortableActivationJournal) : Program Disk Turn := do
  let disk ← get
  match planRecovery journal (observeArtifacts journal disk.files) with
  | .replaceStaged => env.replaceStaged journal
  | .validateNewActive => return .ended (← env.settleNewActive journal)
  | .completeAlreadyValidated => return .ended (.ok (activated journal))
  | .keepRolledBack => return .ended (.ok (.rolledBack journal.payload.operationId))
  | .manual reason => return .ended (.ok (← env.markManual journal reason))

/-- The recovery's loop, for so many turns; `none` when it has not ended by then. -/
def turns : Nat → PortableActivationJournal →
    Program Disk (Option (Except ActivationError PortableActivationStartup))
  | 0, _ => return none
  | n + 1, journal => do
    match ← env.turn journal with
    | .again journal => turns n journal
    | .ended result => return some result

/-! ### A startup -/

/-- The recovery replaces the active database at most once, so that two turns are enough
(`startup_meets`). -/
def recoverPortableActivation :
    Program Disk (Option (Except ActivationError PortableActivationStartup)) := do
  match ← format.readJournal with
  | .error .unsupportedVersion => return some (.error .unsupportedVersion)
  | .error e => return some (.error (.malformed e))
  | .ok none => return some (.ok .noJournal)
  | .ok (some journal) =>
    if !env.pathsAccepted then
      match format.advance journal .manualRecoveryRequired none env.now with
      | .error _ => let _ ← format.writeJournal journal
      | .ok manual => let _ ← format.writeJournal manual
      return some (.ok (.manualRecoveryRequired .pathRejected))
    else
      env.turns 2 journal

end StartupEnv

/-! ### Completing an activation -/

structure Completion (format : JournalFormat) where
  operationId : String
  outcome : String
  now : format.Timestamp

namespace Completion
variable {format : JournalFormat} (completion : Completion format)

def receipt (journal : PortableActivationJournal) : PortableActivationReceipt where
  version := 1
  operationId := completion.operationId
  outcome := completion.outcome
  targetDeviceKeyId := journal.payload.targetDeviceKeyId
  activeSha256 := journal.payload.active.sha256
  backupSha256 := journal.payload.backup.sha256
  completedAt := completion.now.1

/-- The phases that a completion accepts. -/
def Ready (phase : PortableActivationPhase) : Prop :=
  phase = .activatedValidated ∨ phase = .rolledBack

instance (phase : PortableActivationPhase) : Decidable (Ready phase) :=
  inferInstanceAs (Decidable (_ ∨ _))

def completePortableActivation : Program Disk (Except ActivationError Unit) := do
  match ← format.readJournal with
  | .error e => return .error (.journal e)
  | .ok none => return .ok ()
  | .ok (some journal) =>
    if journal.payload.operationId ≠ completion.operationId then
      return .error .operationMismatch
    else if ¬ Ready journal.payload.phase then
      return .error .notReadyToComplete
    else
      write fun disk => { disk with receipt := some (completion.receipt journal) }
      match format.advance journal .completed journal.payload.observedRollbackFileId
          completion.now with
      | .error e => return .error (.journal e)
      | .ok completed =>
        match ← format.writeJournal completed with
        | .error e => return .error (.journal e)
        | .ok () =>
          removeJournal
          return .ok ()

end Completion

/-! ### Runs -/

/-- Each event may crash after so many of its durable steps. -/
inductive ActivationEvent (format : JournalFormat)
  | startup (env : StartupEnv format) (crash : Option Nat)
  | complete (completion : Completion format) (crash : Option Nat)

/-- What a startup reports, if it is not interrupted. -/
def StartupEnv.report {format : JournalFormat} (env : StartupEnv format) (disk : Disk)
    (crash : Option Nat) : Option (Except ActivationError PortableActivationStartup) :=
  (exec env.recoverPortableActivation disk crash).1.join

def activationStep {format : JournalFormat} (disk : Disk) : ActivationEvent format → Disk
  | .startup env crash => (exec env.recoverPortableActivation disk crash).2
  | .complete completion crash => (exec completion.completePortableActivation disk crash).2

def diskAfter {format : JournalFormat} (disk : Disk) (events : List (ActivationEvent format)) :
    Disk := Runs.run activationStep disk events

end RelayPool.Migration
