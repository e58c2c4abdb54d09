import RelayPool.Fallible
import Mathlib.Data.List.Infix

/-! The journal of a portable activation.

An imported database replaces the active one at the next start. The journal records
how far that has come: its phase, the four files concerned, and, once the
replacement is known to be committed, the identity of the file that keeps the old
database. `validatePayload` ties the two together: a phase before the commit has no
such identity, a later one has (`validatePhaseShape`). -/
namespace RelayPool.Migration
open Fallible

/-! ### Files and artifacts -/

/-- What identifies a file's content; volume and file id are known on Windows only. -/
structure FileIdentity where
  volumeSerial : Option Nat
  fileId : Option Nat
  length : Nat
  sha256 : String
deriving DecidableEq, Repr

structure PortableActivationArtifact where
  path : String
  volumeSerial : Option Nat
  fileId : Option Nat
  length : Nat
  sha256 : String
deriving DecidableEq, Repr

namespace PortableActivationArtifact

def fromIdentity (path : String) (identity : FileIdentity) : PortableActivationArtifact where
  path := path
  volumeSerial := identity.volumeSerial
  fileId := identity.fileId
  length := identity.length
  sha256 := identity.sha256

/-- An id the artifact does not know matches any. -/
def matchesIdentity (artifact : PortableActivationArtifact) (identity : FileIdentity) : Bool :=
  artifact.length == identity.length && artifact.sha256 == identity.sha256 &&
    (artifact.volumeSerial.isNone || artifact.volumeSerial == identity.volumeSerial) &&
    (artifact.fileId.isNone || artifact.fileId == identity.fileId)

end PortableActivationArtifact

/-! ### The journal -/

inductive PortableActivationPhase
  | prepared
  | activationStarted
  | replacementCommitted
  | activatedValidated
  | rollbackStarted
  | rolledBack
  | manualRecoveryRequired
  | completed
deriving DecidableEq, Repr

structure PortableActivationPayload where
  operationId : String
  phase : PortableActivationPhase
  mode : String
  createdAt : String
  updatedAt : String
  targetDeviceKeyId : String
  active : PortableActivationArtifact
  staged : PortableActivationArtifact
  rollback : PortableActivationArtifact
  backup : PortableActivationArtifact
  observedRollbackFileId : Option Nat
deriving DecidableEq, Repr

structure PortableActivationJournal where
  version : Nat
  checksum : String
  payload : PortableActivationPayload
deriving DecidableEq, Repr

inductive PortableActivationJournalError
  | tooLarge
  | checksumMismatch
  | unsupportedVersion
  | invalidPhaseShape
  | invalidValue
deriving DecidableEq, Repr

def journalVersion : Nat := 1

def maxJournalBytes : Nat := 64 * 1024

/-- The formats that libraries define: UUIDs, timestamps, paths, JSON and SHA-256. -/
structure JournalFormat where
  isUuidV7 : String → Bool
  isRfc3339 : String → Bool
  isAbsolute : String → Bool
  checksumPayload : PortableActivationPayload → String
  encodedLength : PortableActivationJournal → Nat

/-- A reading of the clock. -/
abbrev JournalFormat.Timestamp (format : JournalFormat) :=
  { text : String // format.isRfc3339 text = true }

/-! ### Validation -/

/-- `invalidValue`, unless the check passes. -/
def require (check : Bool) : Except PortableActivationJournalError Unit :=
  if check then pure () else throw .invalidValue

def validateMode (value : String) : Except PortableActivationJournalError Unit :=
  require (value == "restoreIntoEmpty" || value == "replaceCurrent")

def containsText (value pattern : String) : Bool := decide (pattern.toList <:+: value.toList)

def validateKeyId (value : String) : Except PortableActivationJournalError Unit :=
  require !(value.isEmpty || decide (128 < value.utf8ByteSize) || containsText value "password" ||
    containsText value "ciphertext" || containsText value "secret")

def isAsciiHexdigit (byte : UInt8) : Bool :=
  (decide (48 ≤ byte) && decide (byte ≤ 57)) || (decide (65 ≤ byte) && decide (byte ≤ 70)) ||
    (decide (97 ≤ byte) && decide (byte ≤ 102))

def isSha256Hex (value : String) : Bool :=
  value.utf8ByteSize == 64 && value.toUTF8.data.toList.all isAsciiHexdigit

/-- Which phases know the file that keeps the old database. -/
def validatePhaseShape (phase : PortableActivationPhase) (observedRollbackFileId : Option Nat) :
    Except PortableActivationJournalError Unit :=
  match phase with
  | .prepared | .activationStarted =>
    if observedRollbackFileId.isSome then throw .invalidPhaseShape else pure ()
  | .replacementCommitted | .activatedValidated | .rollbackStarted | .rolledBack | .completed =>
    if observedRollbackFileId.isNone then throw .invalidPhaseShape else pure ()
  | .manualRecoveryRequired => pure ()

namespace JournalFormat
variable (format : JournalFormat)

def validateArtifact (artifact : PortableActivationArtifact) :
    Except PortableActivationJournalError Unit :=
  require (format.isAbsolute artifact.path && artifact.length != 0 && isSha256Hex artifact.sha256)

def validatePayload (payload : PortableActivationPayload) :
    Except PortableActivationJournalError Unit := do
  require (format.isUuidV7 payload.operationId)
  validateMode payload.mode
  validateKeyId payload.targetDeviceKeyId
  require (format.isRfc3339 payload.createdAt)
  require (format.isRfc3339 payload.updatedAt)
  format.validateArtifact payload.active
  format.validateArtifact payload.staged
  format.validateArtifact payload.rollback
  format.validateArtifact payload.backup
  validatePhaseShape payload.phase payload.observedRollbackFileId

def fromPayload (payload : PortableActivationPayload) :
    Except PortableActivationJournalError PortableActivationJournal := do
  format.validatePayload payload
  pure ⟨journalVersion, format.checksumPayload payload, payload⟩

/-- The journal at a later phase. -/
def advance (journal : PortableActivationJournal) (phase : PortableActivationPhase)
    (observedRollbackFileId : Option Nat) (now : format.Timestamp) :
    Except PortableActivationJournalError PortableActivationJournal :=
  format.fromPayload { journal.payload with
    phase := phase
    updatedAt := now.1
    observedRollbackFileId := observedRollbackFileId }

def validate (journal : PortableActivationJournal) :
    Except PortableActivationJournalError Unit := do
  if journal.version ≠ journalVersion then
    throw .unsupportedVersion
  format.validatePayload journal.payload
  if journal.checksum ≠ format.checksumPayload journal.payload then
    throw .checksumMismatch

/-- Reading a journal's bytes back: their size and the journal they encode. -/
def decodeJournal (journal : PortableActivationJournal) :
    Except PortableActivationJournalError PortableActivationJournal := do
  if maxJournalBytes < format.encodedLength journal then
    throw .tooLarge
  format.validate journal
  pure journal

/-! ### Advancing a valid journal -/

theorem require_ok {check : Bool} : require check = .ok () ↔ check = true := by
  cases check
  · exact ⟨nofun, nofun⟩
  · exact ⟨fun _ => rfl, fun _ => rfl⟩

/-- The checks on what a journal never changes. -/
structure FixedPart (payload : PortableActivationPayload) : Prop where
  operationId : format.isUuidV7 payload.operationId = true
  mode : validateMode payload.mode = .ok ()
  targetDeviceKeyId : validateKeyId payload.targetDeviceKeyId = .ok ()
  createdAt : format.isRfc3339 payload.createdAt = true
  active : format.validateArtifact payload.active = .ok ()
  staged : format.validateArtifact payload.staged = .ok ()
  rollback : format.validateArtifact payload.rollback = .ok ()
  backup : format.validateArtifact payload.backup = .ok ()

variable {format : JournalFormat}

theorem validatePayload_fixed {payload : PortableActivationPayload} (h : format.FixedPart payload)
    (updatedAt : format.isRfc3339 payload.updatedAt = true) :
    format.validatePayload payload =
      validatePhaseShape payload.phase payload.observedRollbackFileId := by
  unfold validatePayload
  rw [h.mode, h.targetDeviceKeyId, h.active, h.staged, h.rollback, h.backup,
    require_ok.mpr h.operationId, require_ok.mpr h.createdAt, require_ok.mpr updatedAt]
  rfl

theorem fixedPart_of_valid {payload : PortableActivationPayload}
    (h : format.validatePayload payload = .ok ()) : format.FixedPart payload := by
  simp only [validatePayload, bind_ok] at h
  obtain ⟨⟨⟩, operationId, ⟨⟩, mode, ⟨⟩, key, ⟨⟩, createdAt, ⟨⟩, -, ⟨⟩, active, ⟨⟩, staged, ⟨⟩,
    rollback, ⟨⟩, backup, -⟩ := h
  exact ⟨require_ok.mp operationId, mode, key, require_ok.mp createdAt, active, staged, rollback,
    backup⟩

theorem shape_of_valid {payload : PortableActivationPayload}
    (h : format.validatePayload payload = .ok ()) :
    validatePhaseShape payload.phase payload.observedRollbackFileId = .ok () := by
  simp only [validatePayload, bind_ok] at h
  obtain ⟨⟨⟩, -, ⟨⟩, -, ⟨⟩, -, ⟨⟩, -, ⟨⟩, -, ⟨⟩, -, ⟨⟩, -, ⟨⟩, -, ⟨⟩, -, shape⟩ := h
  exact shape

theorem validate_ok {journal : PortableActivationJournal} :
    format.validate journal = .ok () ↔
      journal.version = journalVersion ∧ format.validatePayload journal.payload = .ok () ∧
        journal.checksum = format.checksumPayload journal.payload := by
  simp only [validate, bind_ok, ite_ok, throw_ok, pure_ok, false_and, exists_false, and_false,
    false_or, and_true, ne_eq, Decidable.not_not]
  constructor
  · rintro ⟨version, ⟨⟩, payload, checksum⟩
    exact ⟨version, payload, checksum⟩
  · rintro ⟨version, payload, checksum⟩
    exact ⟨version, (), payload, checksum⟩

/-- The journal that `advance` builds when the phase has the right shape. -/
def advanced (format : JournalFormat) (journal : PortableActivationJournal)
    (phase : PortableActivationPhase) (observedRollbackFileId : Option Nat)
    (now : format.Timestamp) : PortableActivationJournal :=
  let payload : PortableActivationPayload := { journal.payload with
    phase := phase
    updatedAt := now.1
    observedRollbackFileId := observedRollbackFileId }
  ⟨journalVersion, format.checksumPayload payload, payload⟩

theorem FixedPart.advanced {journal : PortableActivationJournal}
    (h : format.FixedPart journal.payload) (phase : PortableActivationPhase) (id : Option Nat)
    (now : format.Timestamp) : format.FixedPart (format.advanced journal phase id now).payload :=
  ⟨h.operationId, h.mode, h.targetDeviceKeyId, h.createdAt, h.active, h.staged, h.rollback, h.backup⟩

/-- A valid journal advances to any phase whose shape fits. -/
theorem advance_eq {journal : PortableActivationJournal} (h : format.FixedPart journal.payload)
    (phase : PortableActivationPhase) (id : Option Nat) (now : format.Timestamp) :
    format.advance journal phase id now =
      (validatePhaseShape phase id).map fun _ => format.advanced journal phase id now := by
  have checked := validatePayload_fixed (h.advanced phase id now) now.2
  unfold JournalFormat.advanced at checked
  unfold advance fromPayload
  rw [checked]
  cases shape : validatePhaseShape phase id with
  | error e => rfl
  | ok => rfl

theorem validate_advanced {journal : PortableActivationJournal}
    (h : format.FixedPart journal.payload) {phase : PortableActivationPhase} {id : Option Nat}
    {now : format.Timestamp} (shape : validatePhaseShape phase id = .ok ()) :
    format.validate (format.advanced journal phase id now) = .ok () := by
  have checked := validatePayload_fixed (h.advanced phase id now) now.2
  exact validate_ok.mpr ⟨rfl, checked.trans shape, rfl⟩

/-- A valid journal is its own advance. -/
theorem advanced_self {journal : PortableActivationJournal}
    (h : format.validate journal = .ok ()) :
    ∃ now, journal =
      format.advanced journal journal.payload.phase journal.payload.observedRollbackFileId now := by
  obtain ⟨version, payload, checksum⟩ := validate_ok.mp h
  have updatedAt : format.isRfc3339 journal.payload.updatedAt = true := by
    simp only [validatePayload, bind_ok] at payload
    obtain ⟨⟨⟩, -, ⟨⟩, -, ⟨⟩, -, ⟨⟩, -, ⟨⟩, updatedAt, -⟩ := payload
    exact require_ok.mp updatedAt
  refine ⟨⟨journal.payload.updatedAt, updatedAt⟩, ?_⟩
  obtain ⟨v, c, payload'⟩ := journal
  simp only at version checksum
  rw [version, checksum]
  rfl

end JournalFormat

end RelayPool.Migration
