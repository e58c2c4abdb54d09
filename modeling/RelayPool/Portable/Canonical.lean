import RelayPool.Portable.Acceptance

/-! The text of a manifest that was built.

A value whose objects have their keys in order is read back from its text (`visit_ofValue`),
and an object whose keys are not is read with its members put in order. So the members of a
manifest are found again, and the manifest is accepted just when its texts are short
(`built_manifest_round_trip`): the builder does not look at how long they are. -/
namespace RelayPool.Portable
open Protocol Fallible
open PortableMigrationManifest (countMember)

/-! ### Values read back -/

mutual

/-- The text of a value. -/
def RawJson.ofValue : Value → RawJson
  | .null => .null
  | .bool value => .bool value
  | .number value => .number value
  | .string value => .string value
  | .array items => .array (RawJson.ofItems items) true
  | .object entries => .object (RawJson.ofEntries entries) true

def RawJson.ofItems : List Value → List RawJson
  | [] => []
  | item :: rest => .ofValue item :: RawJson.ofItems rest

def RawJson.ofEntries : List (String × Value) → List (String × RawJson)
  | [] => []
  | (key, item) :: rest => (key, .ofValue item) :: RawJson.ofEntries rest

end

mutual

/-- Every object has its keys in order. -/
def InOrder : Value → Prop
  | .array items => InOrderItems items
  | .object entries => (entries.map (·.1)).Pairwise (· < ·) ∧ InOrderEntries entries
  | .null | .bool _ | .number _ | .string _ => True

def InOrderItems : List Value → Prop
  | [] => True
  | item :: rest => InOrder item ∧ InOrderItems rest

def InOrderEntries : List (String × Value) → Prop
  | [] => True
  | (_, item) :: rest => InOrder item ∧ InOrderEntries rest

end

theorem insertKey_last {key : String} {value : Value} {values : List (String × Value)}
    (last : ∀ other ∈ values.map (·.1), other < key) :
    insertKey key value values = values ++ [(key, value)] := by
  induction values with
  | nil => rfl
  | cons entry rest ih =>
    rw [List.map_cons, List.forall_mem_cons] at last
    rw [insertKey, if_neg (String.lt_asymm last.1), ih last.2, List.cons_append]

mutual

theorem visit_ofValue : (value : Value) → InOrder value → visit (.ofValue value) = .ok value
  | .null, _ | .bool _, _ | .number _, _ | .string _, _ => rfl
  | .array items, ordered => by
    rw [RawJson.ofValue, visit, visitSeq_ofItems items ordered]
    rfl
  | .object entries, ordered => by
    have visited := visitMap_ofEntries [] entries (List.nil_append entries ▸ ordered.1) ordered.2
    rw [RawJson.ofValue, visit, visited]
    rfl

theorem visitSeq_ofItems :
    (items : List Value) → InOrderItems items → visitSeq (RawJson.ofItems items) = .ok items
  | [], _ => rfl
  | item :: rest, ordered => by
    rw [RawJson.ofItems, visitSeq, visit_ofValue item ordered.1, visitSeq_ofItems rest ordered.2]
    rfl

theorem visitMap_ofEntries (values : List (String × Value)) : (entries : List (String × Value)) →
    ((values ++ entries).map (·.1)).Pairwise (· < ·) → InOrderEntries entries →
    visitMap values (RawJson.ofEntries entries) = .ok (values ++ entries)
  | [], _, _ => by rw [List.append_nil]; rfl
  | (key, item) :: rest, keys, ordered => by
    have last : ∀ other ∈ values.map (·.1), other < key := by
      rw [List.map_append, List.pairwise_append] at keys
      exact fun other mem => keys.2.2 other mem key List.mem_cons_self
    have fresh : key ∉ values.map (·.1) := fun mem => String.lt_irrefl key (last key mem)
    rw [RawJson.ofEntries, visitMap, require, if_pos fresh, visit_ofValue item ordered.1]
    show visitMap (insertKey key item values) (RawJson.ofEntries rest) = _
    rw [insertKey_last last, visitMap_ofEntries _ rest (by simpa using keys) ordered.2,
      List.append_assoc, List.singleton_append]

end

/-- An object whose keys are not in order is read with its members put in order. -/
theorem visitMap_perm (values entries : List (String × Value))
    (keys : ((values ++ entries).map (·.1)).Nodup) (ordered : InOrderEntries entries) :
    ∃ out, visitMap values (RawJson.ofEntries entries) = .ok out ∧
      out.Perm (values ++ entries) := by
  induction entries generalizing values with
  | nil => exact ⟨values, rfl, by rw [List.append_nil]⟩
  | cons entry rest ih =>
    have moved : (insertKey entry.1 entry.2 values ++ rest).Perm (values ++ entry :: rest) :=
      ((insertKey_perm entry.1 entry.2 values).append_right rest).trans
        List.perm_middle.symm
    have fresh : entry.1 ∉ values.map (·.1) := by
      rw [List.map_append, List.nodup_append'] at keys
      exact fun mem => keys.2.2 mem List.mem_cons_self
    obtain ⟨out, visited, perm⟩ := ih _ ((moved.map _).nodup_iff.mpr keys) ordered.2
    refine ⟨out, ?_, perm.trans moved⟩
    rw [RawJson.ofEntries, visitMap, require, if_pos fresh, visit_ofValue entry.2 ordered.1]
    exact visited

/-! ### Members read back -/

theorem natOfDigits_toString (n : Nat) : Value.natOfDigits (toString n).toList = some n := by
  have digits : (toString n).toList = Nat.toDigits 10 n := by
    rw [Nat.toString_eq_repr, Nat.toList_repr]
  rw [digits, Value.natOfDigits, if_pos]
  · exact congrArg some (Nat.ofDigitChars_ten_toDigits (n := n))
  · exact ⟨Nat.toDigits_ne_nil, List.all_eq_true.mpr fun c mem =>
      Nat.isDigit_of_mem_toDigits (by decide) (by decide) mem⟩

theorem u64Of_number (n : UInt64) : u64Of (PortableMigrationManifest.number n) = .ok n := by
  rw [u64Of, PortableMigrationManifest.number, asU64, natOfDigits_toString, Option.bind_some,
    if_pos n.toNat_lt, UInt64.ofNat_toNat]
  rfl

theorem shortString_string {text : String} :
    shortString (.string text) = .ok text ↔ Short text := by
  rw [shortString]
  refine then_ok.trans ?_
  rw [validateShortString, require_ok]
  exact and_iff_left rfl

theorem shortStrings_texts {texts : List String} :
    shortStrings (PortableMigrationManifest.texts texts) = .ok texts ↔
      ∀ text ∈ texts, Short text :=
  mapM_back.trans (forall₂_congr fun _ _ => shortString_string)

theorem recordCount_countMember {entry : String × UInt64} :
    recordCount (countMember entry) = .ok entry ↔ Short entry.1 := by
  have number := u64Of_number entry.2
  rw [u64Of, orError_ok] at number
  rw [recordCount, then_ok, validateShortString, require_ok, countMember, number]
  exact and_iff_left rfl

theorem recordCounts_countMember {counts : List (String × UInt64)} :
    recordCounts (.object (counts.map countMember)) = .ok counts ↔ ∀ count ∈ counts, Short count.1 :=
  mapM_back.trans (forall₂_congr fun _ _ => recordCount_countMember)

theorem memberOf_of_mem {entries : List (String × Value)} {key : String} {value : Value}
    (distinct : (entries.map (·.1)).Nodup) (mem : (key, value) ∈ entries) :
    memberOf key entries = some value := by
  induction entries with
  | nil => exact absurd mem List.not_mem_nil
  | cons entry rest ih =>
    rw [List.map_cons, List.nodup_cons] at distinct
    rw [memberOf, List.find?_cons]
    rcases List.mem_cons.mp mem with rfl | mem
    · simp
    · have other : entry.1 ≠ key := fun same =>
        distinct.1 (same ▸ List.mem_map_of_mem (f := (·.1)) mem)
      simp only [other, decide_false]
      exact ih distinct.2 mem

/-! ### Manifests -/

namespace PortableMigrationManifest

/-- The texts that are read into a manifest are short. -/
structure ShortTexts (manifest : PortableMigrationManifest) : Prop where
  each : ∀ text ∈ [manifest.format, manifest.exportId, manifest.createdAt,
    manifest.sourceAppVersion, manifest.sourcePlatform, manifest.portableSchemaProfile,
    manifest.minimumImporterVersion, manifest.transportKeyId, manifest.sqliteSha256] ++
    manifest.requiredFeatures ++ manifest.includedCategories ++ manifest.excludedCategories,
    Short text
  counts : ∀ count ∈ manifest.recordCounts, Short count.1

def entries (manifest : PortableMigrationManifest) : List (String × Value) :=
  match manifest.toValue with
  | .object entries => entries
  | _ => []

theorem toValue_eq (manifest : PortableMigrationManifest) :
    manifest.toValue = .object manifest.entries := rfl

theorem keys_entries (manifest : PortableMigrationManifest) :
    manifest.entries.map (·.1) = topLevelFields := rfl

theorem inOrderItems_texts (texts : List String) : InOrderItems (texts.map Value.string) := by
  induction texts with
  | nil => trivial
  | cons text rest ih => exact ⟨trivial, ih⟩

theorem inOrderEntries_counts (counts : List (String × UInt64)) :
    InOrderEntries (counts.map countMember) := by
  induction counts with
  | nil => trivial
  | cons count rest ih => exact ⟨trivial, ih⟩

theorem inOrder_entries {manifest : PortableMigrationManifest}
    (extensions : InOrder manifest.extensions)
    (counts : (manifest.recordCounts.map (·.1)).Pairwise (· < ·)) :
    InOrderEntries manifest.entries := by
  have keys : ((manifest.recordCounts.map countMember).map (·.1)).Pairwise (· < ·) := by
    rwa [List.map_map]
  simp only [entries, toValue, InOrderEntries, InOrder, number, texts, true_and, and_true,
    inOrderItems_texts]
  exact ⟨extensions, keys, inOrderEntries_counts _⟩

/-- Read back, the members are what the fields say just when the texts are short. -/
theorem holds_iff {manifest : PortableMigrationManifest} {out : List (String × Value)}
    (perm : out.Perm manifest.entries) : Holds out manifest ↔ manifest.ShortTexts := by
  have distinct : (out.map (·.1)).Nodup :=
    (perm.map _).nodup_iff.mpr (keys_entries manifest ▸ by decide +kernel)
  have member (i : Nat) {key : String} {value : Value}
      (is : manifest.entries[i]? = some (key, value)) : memberOf key out = some value :=
    memberOf_of_mem distinct (perm.mem_iff.mpr (List.mem_of_getElem? is))
  have has {α : Type} {key : String} {value : Value} {convert : Value → Except _ α} {a : α}
      (found : memberOf key out = some value) : Has out key convert a ↔ convert value = .ok a := by
    rw [Has, found]
    exact ⟨fun ⟨_, same, made⟩ => Option.some.inj same ▸ made, fun made => ⟨value, rfl, made⟩⟩
  have text {key text : String} (found : memberOf key out = some (.string text)) :
      Has out key shortString text ↔ Short text := (has found).trans shortString_string
  have many {key : String} {values : List String} (found : memberOf key out = some (texts values)) :
      Has out key shortStrings values ↔ ∀ text ∈ values, Short text :=
    (has found).trans shortStrings_texts
  have tables : Has out "recordCounts" Portable.recordCounts manifest.recordCounts ↔
      ∀ count ∈ manifest.recordCounts, Short count.1 :=
    (has (member 17 rfl)).trans recordCounts_countMember
  have numeral {key : String} {n : UInt64} (found : memberOf key out = some (number n)) :
      Has out key u64Of n := (has found).mpr (u64Of_number n)
  constructor
  · intro holds
    refine ⟨?_, tables.mp holds.recordCounts⟩
    simp only [List.forall_mem_append, List.forall_mem_cons]
    exact ⟨⟨⟨⟨(text (member 0 rfl)).mp holds.format, (text (member 2 rfl)).mp holds.exportId,
      (text (member 3 rfl)).mp holds.createdAt, (text (member 4 rfl)).mp holds.sourceAppVersion,
      (text (member 5 rfl)).mp holds.sourcePlatform,
      (text (member 8 rfl)).mp holds.portableSchemaProfile,
      (text (member 9 rfl)).mp holds.minimumImporterVersion,
      (text (member 10 rfl)).mp holds.transportKeyId,
      (text (member 19 rfl)).mp holds.sqliteSha256, fun _ mem => nomatch mem⟩,
      (many (member 13 rfl)).mp holds.requiredFeatures⟩,
      (many (member 15 rfl)).mp holds.includedCategories⟩,
      (many (member 16 rfl)).mp holds.excludedCategories⟩
  · rintro ⟨each, counts⟩
    simp only [List.forall_mem_append, List.forall_mem_cons] at each
    obtain ⟨⟨⟨⟨format, exportId, createdAt, sourceAppVersion, sourcePlatform,
      portableSchemaProfile, minimumImporterVersion, transportKeyId, sqliteSha256, -⟩, features⟩,
      included⟩, excluded⟩ := each
    exact ⟨(text (member 0 rfl)).mpr format, numeral (member 1 rfl),
      (text (member 2 rfl)).mpr exportId, (text (member 3 rfl)).mpr createdAt,
      (text (member 4 rfl)).mpr sourceAppVersion, (text (member 5 rfl)).mpr sourcePlatform,
      numeral (member 6 rfl), numeral (member 7 rfl),
      (text (member 8 rfl)).mpr portableSchemaProfile,
      (text (member 9 rfl)).mpr minimumImporterVersion,
      (text (member 10 rfl)).mpr transportKeyId, numeral (member 11 rfl), numeral (member 12 rfl),
      (many (member 13 rfl)).mpr features, member 14 rfl, (many (member 15 rfl)).mpr included,
      (many (member 16 rfl)).mpr excluded, tables.mpr counts, numeral (member 18 rfl),
      (text (member 19 rfl)).mpr sqliteSha256⟩

/-- Read back, the members are those of the manifest, put in order. -/
theorem visit_toValue (manifest : PortableMigrationManifest)
    (extensions : InOrder manifest.extensions)
    (counts : (manifest.recordCounts.map (·.1)).Pairwise (· < ·)) :
    ∃ out, visit (.ofValue manifest.toValue) = .ok (.object out) ∧ out.Perm manifest.entries := by
  obtain ⟨out, visited, perm⟩ := visitMap_perm [] manifest.entries
    (keys_entries manifest ▸ by decide +kernel) (inOrder_entries extensions counts)
  refine ⟨out, ?_, perm⟩
  rw [toValue_eq, RawJson.ofValue, visit, visited]
  rfl

end PortableMigrationManifest

theorem deepestEntry_perm {entries out : List (String × Value)} (perm : out.Perm entries) :
    deepestEntry out = deepestEntry entries := by
  induction perm with
  | nil => rfl
  | cons entry _ ih => rw [deepestEntry, deepestEntry, ih]
  | swap a b rest =>
    simp only [deepestEntry]
    omega
  | trans _ _ first second => exact first.trans second

theorem deepestItem_texts (texts : List String) :
    deepestItem (texts.map Value.string) = if texts = [] then 0 else 1 := by
  induction texts with
  | nil => rfl
  | cons text rest ih =>
    rw [List.map_cons, deepestItem, ih, if_neg (List.cons_ne_nil _ _), deepest]
    split <;> rfl

theorem deepestEntry_counts (counts : List (String × UInt64)) :
    deepestEntry (counts.map countMember) ≤ 1 := by
  induction counts with
  | nil => exact Nat.zero_le _
  | cons count rest ih =>
    rw [List.map_cons, countMember, deepestEntry, PortableMigrationManifest.number, deepest]
    omega

/-! ### What is built -/

theorem short_of_uuid {codecs : Codecs} {value : String}
    (valid : validateUuidV7 codecs value = .ok ()) : Short value := by
  have size := (require_ok.mp (then_ok.mp valid).1).1
  refine ⟨?_, by rw [size]; decide⟩
  rintro rfl
  cases size

theorem short_of_transport {codecs : Codecs} {value : String}
    (begins : "transport:".toList.isPrefixOf value.toList)
    (valid : validateUuidV7 codecs (.ofList (value.toList.drop 10)) = .ok ()) : Short value := by
  have size := (require_ok.mp (then_ok.mp valid).1).1
  obtain ⟨rest, is⟩ := List.isPrefixOf_iff_prefix.mp begins
  have length : "transport:".toList.length = 10 := by decide +kernel
  rw [← is, List.drop_left' length] at size
  have whole : value = "transport:" ++ String.ofList rest := by
    rw [← String.toList_inj, String.toList_append, ← is]
    exact congrArg _ String.toList_ofList.symm
  have bytes : "transport:".utf8ByteSize = 10 := by decide +kernel
  rw [Short, whole, String.utf8ByteSize_append, size, bytes]
  refine ⟨fun empty => ?_, by decide⟩
  have sizes := congrArg String.utf8ByteSize empty
  rw [String.utf8ByteSize_append, size, bytes] at sizes
  cases sizes

theorem deepest_built (input : PortableMigrationManifestInput) (standard : Base64.Engine) :
    deepestEntry (input.manifest standard).entries = 2 := by
  set manifest := input.manifest standard with built
  have counts : deepestEntry (manifest.recordCounts.map countMember) ≤ 1 :=
    deepestEntry_counts input.recordCounts
  have included : deepestItem (manifest.includedCategories.map Value.string) = 1 := by
    rw [deepestItem_texts, if_neg]
    rw [built, PortableMigrationManifestInput.manifest]
    split <;> exact List.cons_ne_nil _ _
  have excluded : deepestItem (manifest.excludedCategories.map Value.string) ≤ 1 := by
    rw [deepestItem_texts]
    split <;> decide
  have features : deepestItem (manifest.requiredFeatures.map Value.string) = 0 := rfl
  have extensions : deepest manifest.extensions = 0 := rfl
  simp only [PortableMigrationManifest.entries, PortableMigrationManifest.toValue,
    PortableMigrationManifest.number, PortableMigrationManifest.texts, deepestEntry, deepest,
    included, features, extensions]
  omega

section
variable {codecs : Codecs} {input : PortableMigrationManifestInput} {expected : List String}
  {limits : PortableMigrationLimitsV1} {manifest : PortableMigrationManifest}

theorem shortTexts_built
    (valid : Valid codecs (input.manifest codecs.standard) expected limits) :
    (input.manifest codecs.standard).ShortTexts ↔
      Short input.createdAt ∧ Short input.sourceAppVersion ∧
      Short input.minimumImporterVersion ∧ ∀ count ∈ input.recordCounts, Short count.1 := by
  have format : Short portableMigrationFormat := by decide +kernel
  have profile : Short portableMigrationSchemaProfile := by decide +kernel
  have key := short_of_transport valid.transportKeyId.1 valid.transportKeyId.2
  have digest : Short (codecs.standard.encode input.sqliteSha256.val) := by
    have size := (length_digest codecs.standard input.sqliteSha256).1
    refine ⟨fun empty => ?_, size.trans_le (by decide)⟩
    rw [empty] at size
    cases size
  have known : ∀ category ∈ categories, Short category := by decide +kernel
  have included (text : String)
      (mem : text ∈ (input.manifest codecs.standard).includedCategories) : Short text :=
    known text (valid.categories.each.mem_iff.mp (List.mem_append_left _ mem))
  have excluded (text : String)
      (mem : text ∈ (input.manifest codecs.standard).excludedCategories) : Short text :=
    known text (valid.categories.each.mem_iff.mp (List.mem_append_right _ mem))
  constructor
  · rintro ⟨each, counts⟩
    simp only [List.forall_mem_append, List.forall_mem_cons] at each
    exact ⟨each.1.1.1.2.2.1, each.1.1.1.2.2.2.1, each.1.1.1.2.2.2.2.2.2.1, counts⟩
  · rintro ⟨createdAt, source, importer, counts⟩
    refine ⟨?_, counts⟩
    simp only [List.forall_mem_append, List.forall_mem_cons]
    exact ⟨⟨⟨⟨format, short_of_uuid valid.exportId, createdAt, source, valid.platform,
      profile, importer, key, digest, fun _ mem => nomatch mem⟩,
      fun _ mem => nomatch mem⟩, included⟩, excluded⟩

/-- What was built is read back from its text just when its texts are short. -/
theorem built_manifest_round_trip
    (law : ∀ bytes, codecs.toVec manifest.toValue = some bytes →
      codecs.fromSlice bytes = (.ofValue manifest.toValue, false))
    (counts : (input.recordCounts.map (·.1)).Pairwise (· < ·))
    (built : buildManifestV1 codecs input expected limits = .ok manifest) {bytes : Bytes}
    (text : manifest.toCanonicalJson codecs = .ok bytes) :
    parseManifest codecs bytes expected limits = .ok manifest ↔
      bytes.length ≤ limits.maxManifestBytes ∧ 2 ≤ limits.maxJsonDepth ∧
        Short input.createdAt ∧ Short input.sourceAppVersion ∧
        Short input.minimumImporterVersion ∧ ∀ count ∈ input.recordCounts, Short count.1 := by
  obtain ⟨checked, same⟩ := then_ok.mp built
  cases same
  have valid := validateManifest_ok.mp checked
  have read := law _ (orError_ok.mp text)
  obtain ⟨out, visited, perm⟩ := (input.manifest codecs.standard).visit_toValue
    ⟨List.Pairwise.nil, trivial⟩ counts
  rw [← shortTexts_built valid, ← PortableMigrationManifest.holds_iff perm]
  have depth : deepest (.object out) = 2 := by
    rw [deepest, deepestEntry_perm perm, deepest_built]
  constructor
  · intro parsed
    obtain ⟨entries, accepted⟩ := accepted_of_parse parsed
    have again := accepted.visited
    rw [read, visited] at again
    cases again
    exact ⟨accepted.fits, depth ▸ accepted.shallow, accepted.holds⟩
  · rintro ⟨fits, shallow, holds⟩
    have accepted : Accepted codecs bytes expected limits (input.manifest codecs.standard) out := by
      refine ⟨fits, by rw [read], ?_, ?_, depth.trans_le shallow, ?_, holds, valid⟩
      · rw [read]
        exact (visit_accepts _).mp ⟨_, visited⟩
      · rw [read]
        exact visited
      · exact (perm.map _).trans (PortableMigrationManifest.keys_entries _ ▸ .refl _)
    exact parse_of_accepted accepted

end

/-- The digest of the three letters `abc`. -/
def sampleDigest : Bytes32 :=
  ⟨[186, 120, 22, 191, 143, 1, 207, 234, 65, 65, 64, 222, 93, 174, 34, 35, 176, 3, 97, 163,
    150, 23, 122, 156, 180, 16, 255, 97, 242, 0, 21, 173], rfl⟩

def sampleInput : PortableMigrationManifestInput where
  exportId := "018f7f9a-1111-7000-8000-000000000001"
  createdAt := "2026-07-14T08:00:00Z"
  sourceAppVersion := "0.3.0"
  sourcePlatform := "windows-x86_64"
  minimumImporterVersion := "0.3.0"
  transportKeyId := "transport:018f7f9a-1111-7000-8000-000000000002"
  includeHistory := false
  recordCounts := [("station_keys", 1), ("stations", 2)]
  sqliteSizeBytes := 3
  sqliteSha256 := sampleDigest

def sampleText : Bytes := RelayPool.Bytes.utf8 (
  "\x7b\"format\":\"relay-pool-portable-migration\"," ++
  "\"formatVersion\":1,\"exportId\":\"018f7f9a-1111-7000-8000-000000000001\"," ++
  "\"createdAt\":\"2026-07-14T08:00:00Z\",\"sourceAppVersion\":\"0.3.0\"," ++
  "\"sourcePlatform\":\"windows-x86_64\",\"databaseGeneration\":2," ++
  "\"databaseSchemaVersion\":17,\"portableSchemaProfile\":\"encrypted-secrets-v1\"," ++
  "\"minimumImporterVersion\":\"0.3.0\"," ++
  "\"transportKeyId\":\"transport:018f7f9a-1111-7000-8000-000000000002\"," ++
  "\"encryptionVersion\":1,\"exportPolicyVersion\":1,\"requiredFeatures\":[]," ++
  "\"extensions\":\x7b\x7d,\"includedCategories\":[\"core_data\"]," ++
  "\"excludedCategories\":[\"history\",\"session_credentials\",\"local_proxy_access_key\"," ++
  "\"device_runtime_state\",\"provider_drafts\"]," ++
  "\"recordCounts\":\x7b\"station_keys\":1,\"stations\":2\x7d," ++
  "\"sqliteSizeBytes\":3," ++
  "\"sqliteSha256\":\"ungWv48Bz+pBQUDeXa4iI7ADYaOWF3qctBD/YfIAFa0=\"\x7d")

def sampleManifest : PortableMigrationManifest := sampleInput.manifest Base64.standard

def sampleCodecs : Codecs where
  fromSlice bytes :=
    if bytes = sampleText then (.ofValue sampleManifest.toValue, false)
    else if bytes = RelayPool.Bytes.utf8 "\x7b\x7d" then (.ofValue (.object []), false)
    else (.broken, true)
  toVec value :=
    if value = sampleManifest.toValue then some sampleText
    else if value = .object [] then some (RelayPool.Bytes.utf8 "\x7b\x7d")
    else none
  semver version := if version = "0.3.0" then some version else none
  rfc3339 time := if time = "2026-07-14T08:00:00Z" then some (0, time) else none
  uuid _ := true
  standard := Base64.standard
  sha256 _ := sampleDigest

theorem sampleCodecs_law (bytes : Bytes)
    (written : sampleCodecs.toVec sampleManifest.toValue = some bytes) :
    sampleCodecs.fromSlice bytes = (.ofValue sampleManifest.toValue, false) := by
  simp only [sampleCodecs, if_true, Option.some.injEq] at written
  subst written
  simp only [sampleCodecs, if_true]

theorem built_manifest_round_trip_sample :
    parseManifest sampleCodecs sampleText ["stations", "station_keys"] .current =
      .ok sampleManifest :=
  (built_manifest_round_trip sampleCodecs_law (by decide +kernel)
    (then_ok.mpr ⟨by decide +kernel, rfl⟩) (by decide +kernel)).mpr
    ⟨by decide +kernel, by decide, by decide +kernel, by decide +kernel, by decide +kernel,
      by decide +kernel⟩

end RelayPool.Portable
