import RelayPool.Crash
import RelayPool.Migration.Journal
import Mathlib.Logic.Function.Basic

/-! What activation leaves on disk.

The journal is published by an atomic rename and a database is replaced by renaming:
the active file moves to a backup path, and its replacement moves into its place.
Where the platform has no atomic replacement, a crash may fall between the two. A
path holds at most one file, and a rename onto a path that holds one overwrites it. -/
namespace RelayPool.Migration
open Crash

structure PortableActivationReceipt where
  version : Nat
  operationId : String
  outcome : String
  targetDeviceKeyId : String
  activeSha256 : String
  backupSha256 : String
  completedAt : String
deriving DecidableEq, Repr

/-- The durable state, with two history variables: the files that a rename has
overwritten, and the databases that have passed validation as the active one. -/
structure Disk where
  journal : Option PortableActivationJournal
  receipt : Option PortableActivationReceipt
  files : String → Option FileIdentity
  overwritten : List FileIdentity
  validated : List FileIdentity

inductive AtomicFileError
  | pathRejected
  | alreadyExists
  | missing
  | io
deriving DecidableEq, Repr

structure DatabaseReplaceEvidence where
  active : FileIdentity
  rollback : FileIdentity
deriving DecidableEq, Repr

/-- What a startup meets outside of the files: the clock, the checks of its paths, the
platform's replacement and its I/O errors, and what the validation of the new database finds. -/
structure StartupEnv (format : JournalFormat) where
  now : format.Timestamp
  pathsAccepted : Bool
  approves : String → Bool
  /-- Whether the platform replaces a file and keeps a backup in one step. -/
  atomicReplace : Bool
  /-- An I/O error of the replacement, after none, one or both of its moves. -/
  replaceFault : Option Nat
  /-- The file passes SQLite's quick check and has no violated foreign key. -/
  sqliteValidates : Bool
  /-- The resolver has the journal's target key, for the current encryption version. -/
  keyKnown : Bool
  /-- Every secret of the database can be read and decrypted with that key. -/
  secretsDecrypt : Bool
  /-- Whether the recovery runs inside an async runtime, as the application starts it. -/
  insideRuntime : Bool

/-! ### The journal's file -/

namespace JournalFormat
variable (format : JournalFormat)

def readJournal : Program Disk
    (Except PortableActivationJournalError (Option PortableActivationJournal)) := do
  let disk ← get
  match disk.journal with
  | none => return .ok none
  | some journal => return (format.decodeJournal journal).map some

/-- The readback finds the bytes that were published. -/
def writeJournal (journal : PortableActivationJournal) :
    Program Disk (Except PortableActivationJournalError Unit) := do
  match format.validate journal with
  | .error e => return .error e
  | .ok () =>
    if maxJournalBytes < format.encodedLength journal then
      return .error .tooLarge
    else
      write fun disk => { disk with journal := some journal }
      return (format.decodeJournal journal).map fun _ => ()

end JournalFormat

def removeJournal : Program Disk Unit := write fun disk => { disk with journal := none }

/-! ### Replacing a database -/

def Disk.renamed (disk : Disk) (source destination : String) : Disk :=
  { disk with
    files := Function.update (Function.update disk.files source none) destination
      (disk.files source)
    overwritten := disk.overwritten ++ (disk.files destination).toList }

def rename (source destination : String) : Program Disk (Except AtomicFileError Unit) := do
  let disk ← get
  if (disk.files source).isNone then
    return .error .io
  else
    write fun disk => disk.renamed source destination
    return .ok ()

namespace StartupEnv
variable {format : JournalFormat} (env : StartupEnv format)

/-- On Windows one call moves both files, and may fail after the first move. -/
def replaceExistingFileWithBackup (replacement destination backup : String) :
    Program Disk (Except AtomicFileError Unit) := do
  if env.replaceFault = some 0 then
    return .error .io
  else if env.atomicReplace && env.replaceFault != some 1 then
    write fun disk => (disk.renamed destination backup).renamed replacement destination
    return .ok ()
  else
    match ← rename destination backup with
    | .error e => return .error e
    | .ok () =>
      if env.replaceFault = some 1 then
        return .error .io
      else
        rename replacement destination

/-- The paths' parents have been compared when the journal's paths were accepted. -/
def replaceDatabaseWithRollback (preparedReplacement active rollback : String) :
    Program Disk (Except AtomicFileError DatabaseReplaceEvidence) := do
  let disk ← get
  if (disk.files active).isNone then
    return .error .missing
  else if (disk.files rollback).isSome then
    return .error .alreadyExists
  else if (disk.files preparedReplacement).isNone then
    return .error .io
  else
    match ← env.replaceExistingFileWithBackup preparedReplacement active rollback with
    | .error e => return .error e
    | .ok () =>
      if env.replaceFault = some 2 then
        return .error .io
      else
        let disk ← get
        match disk.files active, disk.files rollback with
        | some activeIdentity, some rollbackIdentity =>
          return .ok ⟨activeIdentity, rollbackIdentity⟩
        | _, _ => return .error .io

end StartupEnv

end RelayPool.Migration
