import RelayPool.Crash
import RelayPool.Protocol.Event

/-! The device key and the journal of its bootstrap.

A first run writes four stores: the journal of the bootstrap, the credential store with
the device keys and the pointer to the active one, the database, and the files that say
where the database is. A write to one of them is a durable step. Every write succeeds, so
that only a crash stops a startup early. -/
namespace RelayPool.FirstRun
open Crash

abbrev KeyMaterial := BitVec 256

inductive DeviceKeyErrorKind
  | notFound
  | unavailable
  | permissionDenied
  | corrupt
  | unsupported
  | internal
deriving DecidableEq, Repr

structure DeviceKey where
  id : Option String
  material : KeyMaterial
deriving DecidableEq, Repr

structure PendingDeviceKey where
  id : String
  material : KeyMaterial
deriving DecidableEq, Repr

structure ActivePointer where
  version : UInt32
  activeKeyId : String
deriving DecidableEq, Repr

/-- An entry of the credential store, as its reader decodes it. -/
inductive Credential (α : Type)
  | readable (value : α)
  | corrupt
deriving DecidableEq, Repr

structure CredentialStore where
  activePointer : Option (Credential ActivePointer)
  legacyDataKey : Option (Credential KeyMaterial)
  deviceKeys : String → Option (Credential KeyMaterial)

/-! ### The disk -/

inductive DeviceKeyJournalPhase
  | planned
  | keyCreated
  | databaseValidated
  | activeCommitted
  | completed
deriving DecidableEq, Repr

/-- When the journal was written is left out: nothing reads it. -/
structure DeviceKeyJournal where
  version : UInt32
  phase : DeviceKeyJournalPhase
  keyId : String
  candidateIdentity : String
deriving DecidableEq, Repr

/-- A database with the identity of its key. Of a secret only the key that opens it
matters. The key it was created under is a history variable. -/
structure Database where
  activeKeyId : String
  secrets : List KeyMaterial
  createdUnder : KeyMaterial
deriving DecidableEq, Repr

/-- The durable state of an installation. The data directory is the default one, which the
config names once it is written. -/
structure Disk where
  journal : Option DeviceKeyJournal
  credentials : CredentialStore
  staging : Option Database
  database : Option Database
  configured : Bool
  installationMarker : Bool
  baselineConversionJournal : Bool
  portableActivationJournal : Bool

/-! ### The journal -/

namespace DeviceKeyJournal

def new (phase : DeviceKeyJournalPhase) (keyId candidateIdentity : String) : DeviceKeyJournal :=
  ⟨1, phase, keyId, candidateIdentity⟩

def advance (journal : DeviceKeyJournal) (phase : DeviceKeyJournalPhase) : DeviceKeyJournal :=
  .new phase journal.keyId journal.candidateIdentity

end DeviceKeyJournal

def writeJournal (journal : DeviceKeyJournal) : Program Disk Unit :=
  write fun disk => { disk with journal := some journal }

def readJournal : Program Disk (Option DeviceKeyJournal) := do
  let disk ← get
  return disk.journal

def removeJournal : Program Disk Unit := write fun disk => { disk with journal := none }

/-! ### The key store -/

def legacyDeviceKeyId : String := "local-data-key-v1"

/-- An identity as it is compared. -/
def trimmed (value : String) : Option String :=
  let value := Protocol.trim value
  if value.isEmpty then none else some value

/-- The accepted spellings of a UUID: none has blanks around it, and the name of the
legacy key is not one. -/
structure KeyIdFormat where
  validKeyId : String → Bool
  trimmed_of_valid : ∀ id, validKeyId id = true → trimmed id = some id
  legacy_invalid : validKeyId legacyDeviceKeyId = false

def decodeKey : Option (Credential KeyMaterial) → Except DeviceKeyErrorKind KeyMaterial
  | none => .error .notFound
  | some .corrupt => .error .corrupt
  | some (.readable material) => .ok material

namespace CredentialStore

def setDeviceKey (store : CredentialStore) (id : String) (material : KeyMaterial) :
    CredentialStore :=
  { store with deviceKeys := Function.update store.deviceKeys id (some (.readable material)) }

end CredentialStore

namespace KeyIdFormat
variable (format : KeyIdFormat)

def loadActiveOrLegacy (store : CredentialStore) : Except DeviceKeyErrorKind DeviceKey :=
  match store.activePointer with
  | some .corrupt => .error .corrupt
  | some (.readable pointer) =>
    if pointer.version ≠ 1 ∨ format.validKeyId pointer.activeKeyId = false then
      .error .corrupt
    else
      (decodeKey (store.deviceKeys pointer.activeKeyId)).map fun material =>
        ⟨some pointer.activeKeyId, material⟩
  | none => (decodeKey store.legacyDataKey).map fun material => ⟨none, material⟩

/-- `material` is what the generator of keys has drawn. -/
def createPending (id : String) (material : KeyMaterial) :
    Program Disk (Except DeviceKeyErrorKind PendingDeviceKey) := do
  if format.validKeyId id = false then
    return .error .unsupported
  else
    let disk ← get
    match disk.credentials.deviceKeys id with
    | some _ => return .error .corrupt
    | none =>
      write fun disk => { disk with credentials := disk.credentials.setDeviceKey id material }
      let disk ← get
      match decodeKey (disk.credentials.deviceKeys id) with
      | .error kind => return .error kind
      | .ok decoded =>
        if decoded ≠ material then
          return .error .corrupt
        else
          return .ok ⟨id, material⟩

def commitActive (id : String) : Program Disk (Except DeviceKeyErrorKind Unit) := do
  if format.validKeyId id = false then
    return .error .unsupported
  else
    let disk ← get
    match decodeKey (disk.credentials.deviceKeys id) with
    | .error kind => return .error kind
    | .ok _ =>
      let pointer := some (.readable ⟨1, id⟩)
      write fun disk =>
        { disk with credentials := { disk.credentials with activePointer := pointer } }
      let disk ← get
      if disk.credentials.activePointer ≠ pointer then
        return .error .corrupt
      else
        return .ok ()

end KeyIdFormat

end RelayPool.FirstRun
