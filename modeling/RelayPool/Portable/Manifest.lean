import RelayPool.Base64
import RelayPool.Fallible
import RelayPool.Protocol.Event

/-! The manifest of a portable migration (`services/portable_migration/format.rs`).

A manifest is parsed from JSON text in which no key of an object is repeated, its fields are
taken out one by one, and what they say is checked. Reading JSON, semantic versions, timestamps
and base64, and the digest, are the business of libraries: `Codecs` has what they compute. -/
namespace RelayPool.Portable
open Protocol Fallible

inductive PortableFormatError
  | unsupportedFraming
  | truncated
  | trailingBytes
  | lengthLimitExceeded
  | lengthOverflow
  | manifestInvalid
  | duplicateJsonKey
  | unknownTopLevelField
  | unsupportedManifestVersion
  | invalidIdentifier
  | invalidTimestamp
  | invalidSemver
  | invalidFeatureName
  | invalidCategories
  | invalidRecordCounts
  | invalidDigest
  | digestMismatch
deriving DecidableEq, Repr

/-- What a check requires. -/
def require (holds : Prop) [Decidable holds] (error : PortableFormatError) :
    Except PortableFormatError Unit :=
  if holds then .ok () else .error error

def orError {α : Type} (error : PortableFormatError) : Option α → Except PortableFormatError α
  | some a => .ok a
  | none => .error error

/-! ### JSON -/

/-- The text as a deserializer walks through it: where the text stops being JSON, it fails. -/
inductive RawJson
  | null
  | bool (value : Bool)
  | number (value : String)
  | string (value : String)
  | array (items : List RawJson) (closed : Bool)
  | object (entries : List (String × RawJson)) (closed : Bool)
  | broken

/-- `[u8; 32]` -/
abbrev Bytes32 := { bytes : Bytes // bytes.length = 32 }

/-- What the libraries compute. -/
structure Codecs where
  /-- What a deserializer finds, and whether anything but blanks comes after it. -/
  fromSlice : Bytes → RawJson × Bool
  toVec : Value → Option Bytes
  /-- A version, written again. -/
  semver : String → Option String
  /-- The offset of a timestamp from UTC, and the same time in UTC to the second. -/
  rfc3339 : String → Option (Int × String)
  uuid : String → Bool
  /-- `general_purpose::STANDARD` -/
  standard : Base64.Engine
  sha256 : Bytes → Bytes32

/-- A map keeps its keys in order. -/
def insertKey (key : String) (value : Value) : List (String × Value) → List (String × Value)
  | [] => [(key, value)]
  | entry :: rest =>
    if key < entry.1 then (key, value) :: entry :: rest
    else entry :: insertKey key value rest

mutual

/-- `JsonValueVisitor` -/
def visit : RawJson → Except PortableFormatError Value
  | .null => .ok .null
  | .bool value => .ok (.bool value)
  | .number value => .ok (.number value)
  | .string value => .ok (.string value)
  | .array items closed => do
    let values ← visitSeq items
    require (closed = true) .manifestInvalid
    return .array values
  | .object entries closed => do
    let values ← visitMap [] entries
    require (closed = true) .manifestInvalid
    return .object values
  | .broken => .error .manifestInvalid

def visitSeq : List RawJson → Except PortableFormatError (List Value)
  | [] => .ok []
  | item :: rest => do
    let value ← visit item
    return value :: (← visitSeq rest)

/-- A repeated key fails before its value is read. -/
def visitMap (values : List (String × Value)) :
    List (String × RawJson) → Except PortableFormatError (List (String × Value))
  | [] => .ok values
  | (key, item) :: rest => do
    require (key ∉ values.map (·.1)) .duplicateJsonKey
    let value ← visit item
    visitMap (insertKey key value values) rest

end

def parseJsonValueRejectingDuplicates (codecs : Codecs) (bytes : Bytes) :
    Except PortableFormatError Value := do
  let (raw, trailing) := codecs.fromSlice bytes
  let value ← visit raw
  require (trailing = false) .manifestInvalid
  return value

mutual

def walk (depth maxDepth : Nat) : Value → Except PortableFormatError Unit
  | .array items => do
    require (depth ≤ maxDepth) .lengthLimitExceeded
    walkItems (depth + 1) maxDepth items
  | .object entries => do
    require (depth ≤ maxDepth) .lengthLimitExceeded
    walkEntries (depth + 1) maxDepth entries
  | .null | .bool _ | .number _ | .string _ => require (depth ≤ maxDepth) .lengthLimitExceeded

def walkItems (depth maxDepth : Nat) : List Value → Except PortableFormatError Unit
  | [] => .ok ()
  | item :: rest => do
    walk depth maxDepth item
    walkItems depth maxDepth rest

def walkEntries (depth maxDepth : Nat) : List (String × Value) → Except PortableFormatError Unit
  | [] => .ok ()
  | (_, item) :: rest => do
    walk depth maxDepth item
    walkEntries depth maxDepth rest

end

def validateJsonDepth (value : Value) (maxDepth : Nat) : Except PortableFormatError Unit :=
  walk 0 maxDepth value

mutual

/-- Whether two values are equal. -/
def same : Value → Value → Bool
  | .null, .null => true
  | .bool a, .bool b => a == b
  | .number a, .number b => a == b
  | .string a, .string b => a == b
  | .array a, .array b => sameItems a b
  | .object a, .object b => sameEntries a b
  | _, _ => false

def sameItems : List Value → List Value → Bool
  | [], [] => true
  | a :: as, b :: bs => same a b && sameItems as bs
  | _, _ => false

def sameEntries : List (String × Value) → List (String × Value) → Bool
  | [], [] => true
  | (k, a) :: as, (l, b) :: bs => k == l && (same a b && sameEntries as bs)
  | _, _ => false

end

mutual

theorem same_iff {a b : Value} : same a b = true ↔ a = b := by
  cases a <;> cases b <;> simp [same, sameItems_iff, sameEntries_iff]

theorem sameItems_iff {a b : List Value} : sameItems a b = true ↔ a = b := by
  cases a <;> cases b <;> simp [sameItems, same_iff, sameItems_iff]

theorem sameEntries_iff {a b : List (String × Value)} : sameEntries a b = true ↔ a = b := by
  cases a <;> cases b <;> simp [sameEntries, same_iff, sameEntries_iff, Prod.ext_iff, and_assoc]

end

instance : DecidableEq Value := fun _ _ => decidable_of_iff _ same_iff

/-! ### Limits -/

structure PortableMigrationLimitsV1 where
  maxAgeFileBytes : Nat
  maxSqliteBytes : Nat
  maxManifestBytes : Nat
  maxExtensionsBytes : Nat
  maxRequiredFeatures : Nat
  maxRequiredFeatureBytes : Nat
  maxRecordCounts : Nat
  maxJsonDepth : Nat
  maxRowsPerTable : Nat
  maxTotalUserTableRows : Nat
deriving DecidableEq, Repr

def checkedAdd (a b : Nat) : Option Nat := if a + b < 2 ^ 64 then some (a + b) else none

namespace PortableMigrationLimitsV1

def current : PortableMigrationLimitsV1 where
  maxAgeFileBytes := 2416919552
  maxSqliteBytes := 2147483648
  maxManifestBytes := 262144
  maxExtensionsBytes := 65536
  maxRequiredFeatures := 64
  maxRequiredFeatureBytes := 128
  maxRecordCounts := 128
  maxJsonDepth := 64
  maxRowsPerTable := 5000000
  maxTotalUserTableRows := 10000000

def decryptedPayloadUpperBound (_ : PortableMigrationLimitsV1) (manifestLen sqliteLen : Nat) :
    Option Nat := do
  let bound ← checkedAdd 8 4
  let bound ← checkedAdd bound manifestLen
  let bound ← checkedAdd bound 32
  let bound ← checkedAdd bound 8
  let bound ← checkedAdd bound sqliteLen
  checkedAdd bound 32

end PortableMigrationLimitsV1

/-! ### The manifest -/

structure PortableMigrationManifest where
  format : String
  formatVersion : UInt64
  exportId : String
  createdAt : String
  sourceAppVersion : String
  sourcePlatform : String
  databaseGeneration : UInt64
  databaseSchemaVersion : UInt64
  portableSchemaProfile : String
  minimumImporterVersion : String
  transportKeyId : String
  encryptionVersion : UInt64
  exportPolicyVersion : UInt64
  requiredFeatures : List String
  extensions : Value
  includedCategories : List String
  excludedCategories : List String
  recordCounts : List (String × UInt64)
  sqliteSizeBytes : UInt64
  sqliteSha256 : String
deriving DecidableEq

def portableMigrationFormat : String := "relay-pool-portable-migration"

def portableMigrationSchemaProfile : String := "encrypted-secrets-v1"

def categoryCoreData : String := "core_data"

def categoryHistory : String := "history"

/-- What is never exported. -/
def alwaysExcluded : List String :=
  ["session_credentials", "local_proxy_access_key", "device_runtime_state", "provider_drafts"]

namespace PortableMigrationManifest

def number (n : UInt64) : Value := .number (toString n.toNat)

def texts (values : List String) : Value := .array (values.map .string)

def countMember (entry : String × UInt64) : String × Value := (entry.1, number entry.2)

/-- The members in the order of the fields. -/
def toValue (manifest : PortableMigrationManifest) : Value := .object [
  ("format", .string manifest.format),
  ("formatVersion", number manifest.formatVersion),
  ("exportId", .string manifest.exportId),
  ("createdAt", .string manifest.createdAt),
  ("sourceAppVersion", .string manifest.sourceAppVersion),
  ("sourcePlatform", .string manifest.sourcePlatform),
  ("databaseGeneration", number manifest.databaseGeneration),
  ("databaseSchemaVersion", number manifest.databaseSchemaVersion),
  ("portableSchemaProfile", .string manifest.portableSchemaProfile),
  ("minimumImporterVersion", .string manifest.minimumImporterVersion),
  ("transportKeyId", .string manifest.transportKeyId),
  ("encryptionVersion", number manifest.encryptionVersion),
  ("exportPolicyVersion", number manifest.exportPolicyVersion),
  ("requiredFeatures", texts manifest.requiredFeatures),
  ("extensions", manifest.extensions),
  ("includedCategories", texts manifest.includedCategories),
  ("excludedCategories", texts manifest.excludedCategories),
  ("recordCounts", .object (manifest.recordCounts.map countMember)),
  ("sqliteSizeBytes", number manifest.sqliteSizeBytes),
  ("sqliteSha256", .string manifest.sqliteSha256)]

def toCanonicalJson (codecs : Codecs) (manifest : PortableMigrationManifest) :
    Except PortableFormatError Bytes :=
  orError .manifestInvalid (codecs.toVec manifest.toValue)

/-- The members that a manifest has. -/
def topLevelFields : List String := [
  "format", "formatVersion", "exportId", "createdAt", "sourceAppVersion", "sourcePlatform",
  "databaseGeneration", "databaseSchemaVersion", "portableSchemaProfile",
  "minimumImporterVersion", "transportKeyId", "encryptionVersion", "exportPolicyVersion",
  "requiredFeatures", "extensions", "includedCategories", "excludedCategories", "recordCounts",
  "sqliteSizeBytes", "sqliteSha256"]

end PortableMigrationManifest

/-! ### Checks -/

def maxShortStringBytes : Nat := 256

def validateShortString (value : String) : Except PortableFormatError Unit :=
  require (value ≠ "" ∧ value.utf8ByteSize ≤ maxShortStringBytes) .manifestInvalid

def validateSemver (codecs : Codecs) (value : String) : Except PortableFormatError Unit := do
  let version ← orError .invalidSemver (codecs.semver value)
  require (version = value) .invalidSemver

def uuidCharAllowed (index : Nat) (c : Char) : Bool :=
  if index ∈ [8, 13, 18, 23] then c = '-' else c.isDigit || ('a' ≤ c && c ≤ 'f')

def validateUuidV7 (codecs : Codecs) (value : String) : Except PortableFormatError Unit := do
  require (value.utf8ByteSize = 36 ∧
    (value.toList.zipIdx.all fun (c, index) => uuidCharAllowed index c) ∧
    value.toList[14]? = some '7' ∧
    value.toList[19]? ∈ [some '8', some '9', some 'a', some 'b']) .invalidIdentifier
  require (codecs.uuid value) .invalidIdentifier

def validateUtcRfc3339 (codecs : Codecs) (value : String) : Except PortableFormatError Unit := do
  let (offset, canonical) ← orError .invalidTimestamp (codecs.rfc3339 value)
  require (offset = 0 ∧ value.toList.getLast? = some 'Z' ∧ canonical = value) .invalidTimestamp

/-- A digest out of bytes. -/
def toArray (bytes : Bytes) : Except PortableFormatError Bytes32 :=
  if length : bytes.length = 32 then .ok ⟨bytes, length⟩ else .error .invalidDigest

def decodeSha256Digest (standard : Base64.Engine) (value : String) :
    Except PortableFormatError Bytes32 := do
  require (value.utf8ByteSize = 44 ∧ value.toList.getLast? = some '=') .invalidDigest
  let decoded ← orError .invalidDigest (standard.decode value)
  let digest ← toArray decoded
  require (standard.encode digest.val = value) .invalidDigest
  return digest

def validateFeatureName (value : String) (limits : PortableMigrationLimitsV1) : Bool :=
  value ≠ "" && value.utf8ByteSize ≤ limits.maxRequiredFeatureBytes &&
    value.toList.head?.any (·.isLower) &&
    value.toList.all fun c => c.isLower || c.isDigit || c = '.' || c = '-'

def validateFeatures (features : List String) (limits : PortableMigrationLimitsV1) :
    Except PortableFormatError Unit := do
  require (features.length ≤ limits.maxRequiredFeatures) .lengthLimitExceeded
  require ((∀ feature ∈ features, validateFeatureName feature limits) ∧ features.Nodup)
    .invalidFeatureName

def validateExtensions (codecs : Codecs) (extensions : Value)
    (limits : PortableMigrationLimitsV1) : Except PortableFormatError Unit := do
  let entries ← orError .manifestInvalid extensions.asObject
  require (entries.length ≤ limits.maxRequiredFeatures) .lengthLimitExceeded
  let encoded ← orError .manifestInvalid (codecs.toVec extensions)
  require (encoded.length ≤ limits.maxExtensionsBytes) .lengthLimitExceeded
  require (∀ entry ∈ entries, validateFeatureName entry.1 limits ∧
    entry.1 ∉ PortableMigrationManifest.topLevelFields) .invalidFeatureName

def validateCategories (included excluded : List String) : Except PortableFormatError Unit := do
  require included.Nodup .invalidCategories
  require excluded.Nodup .invalidCategories
  let allowed := categoryCoreData :: categoryHistory :: alwaysExcluded
  require ((∀ category ∈ included, category ∈ allowed) ∧
    (∀ category ∈ excluded, category ∈ allowed) ∧
    (∀ category ∈ included, category ∉ excluded) ∧ categoryCoreData ∈ included ∧
    ¬ (categoryHistory ∈ included ↔ categoryHistory ∈ excluded)) .invalidCategories
  require (∀ category ∈ alwaysExcluded, category ∈ excluded ∧ category ∉ included)
    .invalidCategories

/-- The counts of a manifest have its keys in order, each once. -/
def validateRecordCounts (counts : List (String × UInt64)) (expectedKeys : List String)
    (limits : PortableMigrationLimitsV1) : Except PortableFormatError Unit := do
  require (counts.length ≤ limits.maxRecordCounts ∧ counts.length = expectedKeys.length)
    .invalidRecordCounts
  require ((∀ entry ∈ counts, entry.1 ∈ expectedKeys) ∧
    (∀ key ∈ expectedKeys, key ∈ counts.map (·.1)) ∧
    ∀ entry ∈ counts, entry.2.toNat ≤ limits.maxRowsPerTable) .invalidRecordCounts
  let total ← orError .lengthOverflow (counts.foldlM (fun total entry =>
    checkedAdd total entry.2.toNat) 0)
  require (total ≤ limits.maxTotalUserTableRows) .invalidRecordCounts

def validateManifest (codecs : Codecs) (manifest : PortableMigrationManifest)
    (expectedRecordCountKeys : List String) (limits : PortableMigrationLimitsV1) :
    Except PortableFormatError Unit := do
  require (manifest.format = portableMigrationFormat ∧ manifest.formatVersion = 1 ∧
    manifest.databaseGeneration = 2 ∧ 17 ≤ manifest.databaseSchemaVersion ∧
    manifest.portableSchemaProfile = portableMigrationSchemaProfile ∧
    manifest.encryptionVersion = 1 ∧ manifest.exportPolicyVersion = 1) .unsupportedManifestVersion
  validateShortString manifest.sourcePlatform
  validateSemver codecs manifest.sourceAppVersion
  validateSemver codecs manifest.minimumImporterVersion
  validateUuidV7 codecs manifest.exportId
  let key := manifest.transportKeyId.toList
  require ("transport:".toList.isPrefixOf key) .invalidIdentifier
  validateUuidV7 codecs (.ofList (key.drop 10))
  validateUtcRfc3339 codecs manifest.createdAt
  let _ ← decodeSha256Digest codecs.standard manifest.sqliteSha256
  validateFeatures manifest.requiredFeatures limits
  validateExtensions codecs manifest.extensions limits
  validateCategories manifest.includedCategories manifest.excludedCategories
  validateRecordCounts manifest.recordCounts expectedRecordCountKeys limits

/-! ### Building -/

structure PortableMigrationManifestInput where
  exportId : String
  /-- To the second, in UTC. -/
  createdAt : String
  sourceAppVersion : String
  sourcePlatform : String
  minimumImporterVersion : String
  transportKeyId : String
  includeHistory : Bool
  recordCounts : List (String × UInt64)
  sqliteSizeBytes : UInt64
  sqliteSha256 : Bytes32

def PortableMigrationManifestInput.manifest (input : PortableMigrationManifestInput)
    (standard : Base64.Engine) : PortableMigrationManifest where
  format := portableMigrationFormat
  formatVersion := 1
  exportId := input.exportId
  createdAt := input.createdAt
  sourceAppVersion := input.sourceAppVersion
  sourcePlatform := input.sourcePlatform
  databaseGeneration := 2
  databaseSchemaVersion := 17
  portableSchemaProfile := portableMigrationSchemaProfile
  minimumImporterVersion := input.minimumImporterVersion
  transportKeyId := input.transportKeyId
  encryptionVersion := 1
  exportPolicyVersion := 1
  requiredFeatures := []
  extensions := .object []
  includedCategories :=
    if input.includeHistory then [categoryCoreData, categoryHistory] else [categoryCoreData]
  excludedCategories :=
    if input.includeHistory then alwaysExcluded else categoryHistory :: alwaysExcluded
  recordCounts := input.recordCounts
  sqliteSizeBytes := input.sqliteSizeBytes
  sqliteSha256 := standard.encode input.sqliteSha256.val

def buildManifestV1 (codecs : Codecs) (input : PortableMigrationManifestInput)
    (expectedRecordCountKeys : List String) (limits : PortableMigrationLimitsV1) :
    Except PortableFormatError PortableMigrationManifest := do
  let manifest := input.manifest codecs.standard
  validateManifest codecs manifest expectedRecordCountKeys limits
  return manifest

/-! ### Taking the fields -/

/-- Fields are taken out of an object. -/
abbrev Taking := StateT (List (String × Value)) (Except PortableFormatError)

def memberOf (key : String) (entries : List (String × Value)) : Option Value :=
  (entries.find? (·.1 = key)).map (·.2)

def takeRequired (key : String) : Taking Value := fun entries =>
  match memberOf key entries with
  | some value => .ok (value, entries.filter (·.1 ≠ key))
  | none => .error .manifestInvalid

/-- A field of this name, made into what it is to be. -/
def takeAs {α : Type} (convert : Value → Except PortableFormatError α) (key : String) : Taking α :=
  do StateT.lift (convert (← takeRequired key))

def shortString (value : Value) : Except PortableFormatError String := do
  let text ← orError .manifestInvalid value.asStr
  validateShortString text
  return text

def asU64 : Value → Option UInt64
  | .number text => (Value.natOfDigits text.toList).bind fun n =>
    if n < 2 ^ 64 then some (.ofNat n) else none
  | _ => none

def u64Of (value : Value) : Except PortableFormatError UInt64 :=
  orError .manifestInvalid (asU64 value)

def shortStrings (value : Value) : Except PortableFormatError (List String) := do
  let values ← orError .manifestInvalid value.asArray
  values.mapM shortString

def recordCount (entry : String × Value) : Except PortableFormatError (String × UInt64) := do
  validateShortString entry.1
  return (entry.1, ← orError .invalidRecordCounts (asU64 entry.2))

def recordCounts (value : Value) : Except PortableFormatError (List (String × UInt64)) := do
  let values ← orError .manifestInvalid value.asObject
  values.mapM recordCount

def takeString : String → Taking String := takeAs shortString

def takeU64 : String → Taking UInt64 := takeAs u64Of

def takeStringVec : String → Taking (List String) := takeAs shortStrings

def takeRecordCounts : String → Taking (List (String × UInt64)) := takeAs recordCounts

def takeManifest : Taking PortableMigrationManifest := do
  let format ← takeString "format"
  let formatVersion ← takeU64 "formatVersion"
  let exportId ← takeString "exportId"
  let createdAt ← takeString "createdAt"
  let sourceAppVersion ← takeString "sourceAppVersion"
  let sourcePlatform ← takeString "sourcePlatform"
  let databaseGeneration ← takeU64 "databaseGeneration"
  let databaseSchemaVersion ← takeU64 "databaseSchemaVersion"
  let portableSchemaProfile ← takeString "portableSchemaProfile"
  let minimumImporterVersion ← takeString "minimumImporterVersion"
  let transportKeyId ← takeString "transportKeyId"
  let encryptionVersion ← takeU64 "encryptionVersion"
  let exportPolicyVersion ← takeU64 "exportPolicyVersion"
  let requiredFeatures ← takeStringVec "requiredFeatures"
  let extensions ← takeRequired "extensions"
  let includedCategories ← takeStringVec "includedCategories"
  let excludedCategories ← takeStringVec "excludedCategories"
  let recordCounts ← takeRecordCounts "recordCounts"
  let sqliteSizeBytes ← takeU64 "sqliteSizeBytes"
  let sqliteSha256 ← takeString "sqliteSha256"
  return {
    format, formatVersion, exportId, createdAt, sourceAppVersion, sourcePlatform
    databaseGeneration, databaseSchemaVersion, portableSchemaProfile, minimumImporterVersion
    transportKeyId, encryptionVersion, exportPolicyVersion, requiredFeatures, extensions
    includedCategories, excludedCategories, recordCounts, sqliteSizeBytes, sqliteSha256 }

def manifestFromValue (codecs : Codecs) (value : Value) (expectedRecordCountKeys : List String)
    (limits : PortableMigrationLimitsV1) :
    Except PortableFormatError PortableMigrationManifest := do
  let entries ← orError .manifestInvalid value.asObject
  require (∀ entry ∈ entries, entry.1 ∈ PortableMigrationManifest.topLevelFields)
    .unknownTopLevelField
  let (manifest, left) ← takeManifest entries
  require (left.isEmpty) .manifestInvalid
  validateManifest codecs manifest expectedRecordCountKeys limits
  return manifest

def parseManifest (codecs : Codecs) (bytes : Bytes) (expectedRecordCountKeys : List String)
    (limits : PortableMigrationLimitsV1) :
    Except PortableFormatError PortableMigrationManifest := do
  require (bytes.length ≤ limits.maxManifestBytes) .lengthLimitExceeded
  let value ← parseJsonValueRejectingDuplicates codecs bytes
  validateJsonDepth value limits.maxJsonDepth
  manifestFromValue codecs value expectedRecordCountKeys limits

/-! ### What the checks say -/

theorem require_ok {holds : Prop} [Decidable holds] {error : PortableFormatError} :
    require holds error = .ok () ↔ holds := by
  by_cases h : holds
  · exact ⟨fun _ => h, fun _ => if_pos h⟩
  · rw [require, if_neg h]
    exact ⟨(by cases ·), fun wrong => absurd wrong h⟩

theorem orError_ok {α : Type} {error : PortableFormatError} {x : Option α} {a : α} :
    orError error x = .ok a ↔ x = some a := by
  cases x with
  | none => exact ⟨(by cases ·), (by cases ·)⟩
  | some b => exact ⟨fun same => congrArg _ (Except.ok.inj same),
      fun same => congrArg _ (Option.some.inj same)⟩

theorem length_le_of_parseManifest {codecs : Codecs} {bytes : Bytes}
    {expectedRecordCountKeys : List String} {limits : PortableMigrationLimitsV1}
    {manifest : PortableMigrationManifest}
    (parsed : parseManifest codecs bytes expectedRecordCountKeys limits = .ok manifest) :
    bytes.length ≤ limits.maxManifestBytes := by
  obtain ⟨checked, -⟩ := then_ok.mp parsed
  exact require_ok.mp checked

theorem validateManifest_of_parseManifest {codecs : Codecs} {bytes : Bytes}
    {expectedRecordCountKeys : List String} {limits : PortableMigrationLimitsV1}
    {manifest : PortableMigrationManifest}
    (parsed : parseManifest codecs bytes expectedRecordCountKeys limits = .ok manifest) :
    validateManifest codecs manifest expectedRecordCountKeys limits = .ok () := by
  obtain ⟨-, parsed⟩ := then_ok.mp parsed
  obtain ⟨value, -, parsed⟩ := bind_ok.mp parsed
  obtain ⟨-, parsed⟩ := then_ok.mp parsed
  obtain ⟨entries, -, parsed⟩ := bind_ok.mp parsed
  obtain ⟨-, parsed⟩ := then_ok.mp parsed
  obtain ⟨⟨taken, left⟩, -, parsed⟩ := bind_ok.mp parsed
  obtain ⟨-, parsed⟩ := then_ok.mp parsed
  obtain ⟨valid, same⟩ := then_ok.mp parsed
  cases same
  exact valid

theorem decodeSha256Digest_ok {standard : Base64.Engine} {value : String} {digest : Bytes32}
    (decoded : decodeSha256Digest standard value = .ok digest) :
    standard.encode digest.val = value := by
  obtain ⟨-, decoded⟩ := then_ok.mp decoded
  obtain ⟨bytes, -, decoded⟩ := bind_ok.mp decoded
  obtain ⟨whole, isWhole, decoded⟩ := bind_ok.mp decoded
  obtain ⟨encoded, same⟩ := then_ok.mp decoded
  cases same
  rw [toArray] at isWhole
  split at isWhole
  · cases isWhole
    exact require_ok.mp encoded
  · cases isWhole

/-- The digest of a manifest is one that is decoded. -/
theorem decodes_of_parseManifest {codecs : Codecs} {bytes : Bytes}
    {expectedRecordCountKeys : List String} {limits : PortableMigrationLimitsV1}
    {manifest : PortableMigrationManifest}
    (parsed : parseManifest codecs bytes expectedRecordCountKeys limits = .ok manifest) :
    ∃ digest, decodeSha256Digest codecs.standard manifest.sqliteSha256 = .ok digest := by
  have valid := validateManifest_of_parseManifest parsed
  iterate 8 obtain ⟨-, valid⟩ := then_ok.mp valid
  obtain ⟨digest, decoded, -⟩ := bind_ok.mp valid
  exact ⟨digest, decoded⟩

end RelayPool.Portable
