import RelayPool.Bytes
import RelayPool.Portable.Manifest

/-! What a manifest's text may be.

A text is accepted just when it goes on to its end, repeats no key of any object in it, is not
too deep, and its members are the fields of a manifest, each once and each made into what it is
to be, that passes the checks (`manifest_accepted_iff`). -/
namespace RelayPool.Portable
open Protocol Fallible

/-! ### Keys that are not repeated -/

mutual

/-- The text goes on to its end and repeats no key. -/
def RawJson.Strict : RawJson → Prop
  | .null | .bool _ | .number _ | .string _ => True
  | .array items closed => RawJson.StrictItems items ∧ closed = true
  | .object entries closed =>
    (entries.map (·.1)).Nodup ∧ RawJson.StrictEntries entries ∧ closed = true
  | .broken => False

def RawJson.StrictItems : List RawJson → Prop
  | [] => True
  | item :: rest => item.Strict ∧ RawJson.StrictItems rest

def RawJson.StrictEntries : List (String × RawJson) → Prop
  | [] => True
  | (_, item) :: rest => item.Strict ∧ RawJson.StrictEntries rest

end

theorem insertKey_perm (key : String) (value : Value) (values : List (String × Value)) :
    (insertKey key value values).Perm ((key, value) :: values) := by
  induction values with
  | nil => exact .refl _
  | cons entry rest ih =>
    rw [insertKey]
    split
    · exact .refl _
    · exact (ih.cons entry).trans (.swap ..)

theorem mem_insertKey {key other : String} {value : Value} {values : List (String × Value)} :
    other ∈ (insertKey key value values).map (·.1) ↔ other = key ∨ other ∈ values.map (·.1) := by
  rw [((insertKey_perm key value values).map _).mem_iff, List.map_cons, List.mem_cons]

mutual

theorem visit_accepts : (raw : RawJson) → ((∃ value, visit raw = .ok value) ↔ raw.Strict)
  | .null => ⟨fun _ => trivial, fun _ => ⟨.null, rfl⟩⟩
  | .bool value => ⟨fun _ => trivial, fun _ => ⟨.bool value, rfl⟩⟩
  | .number value => ⟨fun _ => trivial, fun _ => ⟨.number value, rfl⟩⟩
  | .string value => ⟨fun _ => trivial, fun _ => ⟨.string value, rfl⟩⟩
  | .array items closed => by
    rw [RawJson.Strict, ← visitSeq_accepts items]
    constructor
    · rintro ⟨value, visited⟩
      obtain ⟨values, inner, visited⟩ := bind_ok.mp visited
      exact ⟨⟨values, inner⟩, require_ok.mp (then_ok.mp visited).1⟩
    · rintro ⟨⟨values, inner⟩, rfl⟩
      exact ⟨.array values, bind_ok.mpr ⟨values, inner, rfl⟩⟩
  | .object entries closed => by
    have inner := visitMap_accepts [] entries
    rw [RawJson.Strict]
    constructor
    · rintro ⟨value, visited⟩
      obtain ⟨values, taken, visited⟩ := bind_ok.mp visited
      obtain ⟨strict, distinct, -⟩ := inner.mp ⟨values, taken⟩
      exact ⟨distinct, strict, require_ok.mp (then_ok.mp visited).1⟩
    · rintro ⟨distinct, strict, rfl⟩
      obtain ⟨values, taken⟩ := inner.mpr ⟨strict, distinct, fun _ _ => List.not_mem_nil⟩
      exact ⟨.object values, bind_ok.mpr ⟨values, taken, rfl⟩⟩
  | .broken => by
    constructor
    · rintro ⟨value, visited⟩
      cases visited
    · exact False.elim

theorem visitSeq_accepts :
    (items : List RawJson) → ((∃ values, visitSeq items = .ok values) ↔ RawJson.StrictItems items)
  | [] => ⟨fun _ => trivial, fun _ => ⟨[], rfl⟩⟩
  | item :: rest => by
    rw [RawJson.StrictItems, ← visit_accepts item, ← visitSeq_accepts rest]
    constructor
    · rintro ⟨values, visited⟩
      obtain ⟨value, first, visited⟩ := bind_ok.mp visited
      obtain ⟨more, others, -⟩ := bind_ok.mp visited
      exact ⟨⟨value, first⟩, more, others⟩
    · rintro ⟨⟨value, first⟩, more, others⟩
      exact ⟨value :: more, bind_ok.mpr ⟨value, first, bind_ok.mpr ⟨more, others, rfl⟩⟩⟩

theorem visitMap_accepts (values : List (String × Value)) : (entries : List (String × RawJson)) →
    ((∃ out, visitMap values entries = .ok out) ↔ RawJson.StrictEntries entries ∧
      (entries.map (·.1)).Nodup ∧ ∀ key ∈ entries.map (·.1), key ∉ values.map (·.1))
  | [] => ⟨fun _ => ⟨trivial, List.nodup_nil, fun _ mem => absurd mem List.not_mem_nil⟩,
      fun _ => ⟨values, rfl⟩⟩
  | (key, item) :: rest => by
    rw [RawJson.StrictEntries, ← visit_accepts item, List.map_cons, List.nodup_cons,
      List.forall_mem_cons]
    constructor
    · rintro ⟨out, visited⟩
      obtain ⟨fresh, visited⟩ := then_ok.mp visited
      obtain ⟨value, first, visited⟩ := bind_ok.mp visited
      obtain ⟨strict, distinct, apart⟩ :=
        (visitMap_accepts (insertKey key value values) rest).mp ⟨out, visited⟩
      refine ⟨⟨⟨value, first⟩, strict⟩, ⟨fun mem => ?_, distinct⟩, require_ok.mp fresh,
        fun other mem is => ?_⟩
      · exact apart key mem (mem_insertKey.mpr (.inl rfl))
      · exact apart other mem (mem_insertKey.mpr (.inr is))
    · rintro ⟨⟨⟨value, first⟩, strict⟩, ⟨alone, distinct⟩, fresh, apart⟩
      obtain ⟨out, visited⟩ := (visitMap_accepts (insertKey key value values) rest).mpr
        ⟨strict, distinct, fun other mem is =>
          (mem_insertKey.mp is).elim (fun same => alone (same ▸ mem)) (apart other mem)⟩
      exact ⟨out, then_ok.mpr ⟨require_ok.mpr fresh, bind_ok.mpr ⟨value, first, visited⟩⟩⟩

end

theorem visitMap_distinct {values out : List (String × Value)} {entries : List (String × RawJson)}
    (visited : visitMap values entries = .ok out) (distinct : (values.map (·.1)).Nodup) :
    (out.map (·.1)).Nodup := by
  induction entries generalizing values with
  | nil =>
    cases visited
    exact distinct
  | cons entry rest ih =>
    obtain ⟨fresh, visited⟩ := then_ok.mp visited
    obtain ⟨value, -, visited⟩ := bind_ok.mp visited
    refine ih visited ?_
    rw [((insertKey_perm entry.1 value values).map _).nodup_iff, List.map_cons, List.nodup_cons]
    exact ⟨require_ok.mp fresh, distinct⟩

/-- An object is read with each of its keys once. -/
theorem visit_distinct {raw : RawJson} {entries : List (String × Value)}
    (visited : visit raw = .ok (.object entries)) : (entries.map (·.1)).Nodup := by
  cases raw with
  | object items closed =>
    obtain ⟨values, taken, visited⟩ := bind_ok.mp visited
    obtain ⟨-, same⟩ := then_ok.mp visited
    cases same
    exact visitMap_distinct taken List.nodup_nil
  | array items closed =>
    obtain ⟨values, -, visited⟩ := bind_ok.mp visited
    obtain ⟨-, same⟩ := then_ok.mp visited
    cases same
  | _ => cases visited

/-! ### Depth -/

mutual

def deepest : Value → Nat
  | .array items => deepestItem items
  | .object entries => deepestEntry entries
  | .null | .bool _ | .number _ | .string _ => 0

def deepestItem : List Value → Nat
  | [] => 0
  | item :: rest => max (deepest item + 1) (deepestItem rest)

def deepestEntry : List (String × Value) → Nat
  | [] => 0
  | (_, item) :: rest => max (deepest item + 1) (deepestEntry rest)

end

mutual

theorem walk_ok_iff (depth maxDepth : Nat) :
    (value : Value) → (walk depth maxDepth value = .ok () ↔ depth + deepest value ≤ maxDepth)
  | .null | .bool _ | .number _ | .string _ => require_ok
  | .array items => by
    rw [walk, then_ok, require_ok, walkItems_ok_iff, deepest]
    omega
  | .object entries => by
    rw [walk, then_ok, require_ok, walkEntries_ok_iff, deepest]
    omega

theorem walkItems_ok_iff (depth maxDepth : Nat) : (items : List Value) →
    (walkItems (depth + 1) maxDepth items = .ok () ↔
      deepestItem items = 0 ∨ depth + deepestItem items ≤ maxDepth)
  | [] => ⟨fun _ => .inl rfl, fun _ => rfl⟩
  | item :: rest => by
    rw [walkItems, then_ok, walk_ok_iff, walkItems_ok_iff depth maxDepth rest, deepestItem]
    omega

theorem walkEntries_ok_iff (depth maxDepth : Nat) : (entries : List (String × Value)) →
    (walkEntries (depth + 1) maxDepth entries = .ok () ↔
      deepestEntry entries = 0 ∨ depth + deepestEntry entries ≤ maxDepth)
  | [] => ⟨fun _ => .inl rfl, fun _ => rfl⟩
  | (_, item) :: rest => by
    rw [walkEntries, then_ok, walk_ok_iff, walkEntries_ok_iff depth maxDepth rest, deepestEntry]
    omega

end

/-! ### Fields -/

/-- The member of this name is made into this. -/
def Has {α : Type} (entries : List (String × Value)) (key : String)
    (convert : Value → Except PortableFormatError α) (a : α) : Prop :=
  ∃ value, memberOf key entries = some value ∧ convert value = .ok a

/-- The members are what the fields of the manifest say. -/
structure Holds (entries : List (String × Value)) (manifest : PortableMigrationManifest) :
    Prop where
  format : Has entries "format" shortString manifest.format
  formatVersion : Has entries "formatVersion" u64Of manifest.formatVersion
  exportId : Has entries "exportId" shortString manifest.exportId
  createdAt : Has entries "createdAt" shortString manifest.createdAt
  sourceAppVersion : Has entries "sourceAppVersion" shortString manifest.sourceAppVersion
  sourcePlatform : Has entries "sourcePlatform" shortString manifest.sourcePlatform
  databaseGeneration : Has entries "databaseGeneration" u64Of manifest.databaseGeneration
  databaseSchemaVersion : Has entries "databaseSchemaVersion" u64Of manifest.databaseSchemaVersion
  portableSchemaProfile :
    Has entries "portableSchemaProfile" shortString manifest.portableSchemaProfile
  minimumImporterVersion :
    Has entries "minimumImporterVersion" shortString manifest.minimumImporterVersion
  transportKeyId : Has entries "transportKeyId" shortString manifest.transportKeyId
  encryptionVersion : Has entries "encryptionVersion" u64Of manifest.encryptionVersion
  exportPolicyVersion : Has entries "exportPolicyVersion" u64Of manifest.exportPolicyVersion
  requiredFeatures : Has entries "requiredFeatures" shortStrings manifest.requiredFeatures
  extensions : memberOf "extensions" entries = some manifest.extensions
  includedCategories : Has entries "includedCategories" shortStrings manifest.includedCategories
  excludedCategories : Has entries "excludedCategories" shortStrings manifest.excludedCategories
  recordCounts : Has entries "recordCounts" recordCounts manifest.recordCounts
  sqliteSizeBytes : Has entries "sqliteSizeBytes" u64Of manifest.sqliteSizeBytes
  sqliteSha256 : Has entries "sqliteSha256" shortString manifest.sqliteSha256

/-- On the members left, the action takes those with these keys. -/
def Fields {α : Type} (entries : List (String × Value)) (r : Taking α) (given : α → Prop)
    (keys : List String) : Prop :=
  ∀ taken, (∀ key ∈ keys, key ∉ taken) → ∀ a left,
    (r (entries.filter (·.1 ∉ taken)) = .ok (a, left) ↔
      given a ∧ left = entries.filter (·.1 ∉ taken ++ keys))

namespace Fields
variable {α β : Type} {entries : List (String × Value)}

theorem bind {r : Taking α} {next : α → Taking β} {given : α → Prop} {gives : α → β → Prop}
    {keys more : List String} (first : Fields entries r given keys)
    (second : ∀ a, Fields entries (next a) (gives a) more) (apart : ∀ key ∈ more, key ∉ keys) :
    Fields entries (r >>= next) (fun b => ∃ a, given a ∧ gives a b) (keys ++ more) := by
  intro taken fresh b left
  have earlier := first taken fun key mem => fresh key (List.mem_append_left _ mem)
  have later (a : α) := second a (taken ++ keys) fun key mem is =>
    (List.mem_append.mp is).elim (fresh key (List.mem_append_right _ mem)) (apart key mem)
  show (r _ >>= fun p => next p.1 p.2) = _ ↔ _
  rw [bind_ok, ← List.append_assoc]
  constructor
  · rintro ⟨⟨a, mid⟩, ran, goes⟩
    obtain ⟨isGiven, rfl⟩ := (earlier a mid).mp ran
    obtain ⟨gives, rfl⟩ := (later a b left).mp goes
    exact ⟨⟨a, isGiven, gives⟩, rfl⟩
  · rintro ⟨⟨a, isGiven, gives⟩, rfl⟩
    exact ⟨(a, _), (earlier a _).mpr ⟨isGiven, rfl⟩, (later a b _).mpr ⟨gives, rfl⟩⟩

/-- A field and then others. -/
theorem field {r : Taking α} {next : α → Taking β} {given : α → Prop} {gives : α → β → Prop}
    {key : String} {more : List String} (first : Fields entries r given [key])
    (second : ∀ a, Fields entries (next a) (gives a) more)
    (apart : key ∉ more := by decide +kernel) :
    Fields entries (r >>= next) (fun b => ∃ a, given a ∧ gives a b) (key :: more) :=
  first.bind second fun _ mem is => apart (List.mem_singleton.mp is ▸ mem)

theorem congr {r : Taking α} {given gives : α → Prop} {keys : List String}
    (fields : Fields entries r given keys) (same : ∀ a, given a ↔ gives a) :
    Fields entries r gives keys := by
  intro taken fresh a left
  rw [fields taken fresh, same]

theorem lift (x : Except PortableFormatError α) :
    Fields entries (StateT.lift x) (fun a => x = .ok a) [] := by
  intro taken _ a left
  rw [List.append_nil]
  show (x >>= fun b => pure (b, _)) = _ ↔ _
  rw [bind_ok]
  constructor
  · rintro ⟨b, is, same⟩
    cases same
    exact ⟨is, rfl⟩
  · rintro ⟨is, rfl⟩
    exact ⟨a, is, rfl⟩

theorem takeRequired (key : String) :
    Fields entries (takeRequired key) (fun value => memberOf key entries = some value) [key] := by
  intro taken fresh value left
  have here : memberOf key (entries.filter (·.1 ∉ taken)) = memberOf key entries := by
    rw [memberOf, List.find?_filter, memberOf]
    congr 2
    funext entry
    by_cases same : entry.1 = key
    · simp [same, fresh key List.mem_cons_self]
    · simp [same]
  have gone : (entries.filter (·.1 ∉ taken)).filter (·.1 ≠ key) =
      entries.filter (·.1 ∉ taken ++ [key]) := by
    rw [List.filter_filter]
    congr 1
    funext entry
    simp [and_comm]
  rw [Portable.takeRequired, here, gone]
  cases memberOf key entries with
  | none =>
    constructor
    · intro wrong
      cases wrong
    · rintro ⟨wrong, -⟩
      cases wrong
  | some found =>
    constructor
    · intro same
      cases same
      exact ⟨rfl, rfl⟩
    · rintro ⟨same, rfl⟩
      cases same
      rfl

theorem takeAs (convert : Value → Except PortableFormatError α) (key : String) :
    Fields entries (takeAs convert key) (Has entries key convert) [key] :=
  (takeRequired key).bind (fun value => lift (convert value)) fun _ mem => nomatch mem

end Fields

theorem mem_of_memberOf {key : String} {entries : List (String × Value)} {value : Value}
    (found : memberOf key entries = some value) : key ∈ entries.map (·.1) := by
  obtain ⟨entry, is, -⟩ := Option.map_eq_some_iff.mp found
  exact List.mem_map.mpr ⟨entry, List.mem_of_find?_eq_some is, by simpa using List.find?_some is⟩

theorem Has.mem {α : Type} {entries : List (String × Value)} {key : String}
    {convert : Value → Except PortableFormatError α} {a : α} (has : Has entries key convert a) :
    key ∈ entries.map (·.1) :=
  mem_of_memberOf has.choose_spec.1

theorem Holds.mem {entries : List (String × Value)} {manifest : PortableMigrationManifest}
    (holds : Holds entries manifest) :
    ∀ key ∈ PortableMigrationManifest.topLevelFields, key ∈ entries.map (·.1) := by
  simp only [PortableMigrationManifest.topLevelFields, List.forall_mem_cons]
  exact ⟨holds.format.mem, holds.formatVersion.mem, holds.exportId.mem, holds.createdAt.mem,
    holds.sourceAppVersion.mem, holds.sourcePlatform.mem, holds.databaseGeneration.mem,
    holds.databaseSchemaVersion.mem, holds.portableSchemaProfile.mem,
    holds.minimumImporterVersion.mem, holds.transportKeyId.mem, holds.encryptionVersion.mem,
    holds.exportPolicyVersion.mem, holds.requiredFeatures.mem, mem_of_memberOf holds.extensions,
    holds.includedCategories.mem, holds.excludedCategories.mem, holds.recordCounts.mem,
    holds.sqliteSizeBytes.mem, holds.sqliteSha256.mem, fun _ mem => nomatch mem⟩

theorem takeManifest_fields (entries : List (String × Value)) :
    Fields entries takeManifest (Holds entries) PortableMigrationManifest.topLevelFields := by
  refine Fields.congr (
    (Fields.takeAs _ _).field fun format =>
    (Fields.takeAs _ _).field fun formatVersion =>
    (Fields.takeAs _ _).field fun exportId =>
    (Fields.takeAs _ _).field fun createdAt =>
    (Fields.takeAs _ _).field fun sourceAppVersion =>
    (Fields.takeAs _ _).field fun sourcePlatform =>
    (Fields.takeAs _ _).field fun databaseGeneration =>
    (Fields.takeAs _ _).field fun databaseSchemaVersion =>
    (Fields.takeAs _ _).field fun portableSchemaProfile =>
    (Fields.takeAs _ _).field fun minimumImporterVersion =>
    (Fields.takeAs _ _).field fun transportKeyId =>
    (Fields.takeAs _ _).field fun encryptionVersion =>
    (Fields.takeAs _ _).field fun exportPolicyVersion =>
    (Fields.takeAs _ _).field fun requiredFeatures =>
    (Fields.takeRequired _).field fun extensions =>
    (Fields.takeAs _ _).field fun includedCategories =>
    (Fields.takeAs _ _).field fun excludedCategories =>
    (Fields.takeAs _ _).field fun recordCounts =>
    (Fields.takeAs _ _).field fun sqliteSizeBytes =>
    (Fields.takeAs _ _).field fun sqliteSha256 =>
    Fields.lift (.ok (⟨format, formatVersion, exportId, createdAt, sourceAppVersion,
      sourcePlatform, databaseGeneration, databaseSchemaVersion, portableSchemaProfile,
      minimumImporterVersion, transportKeyId, encryptionVersion, exportPolicyVersion,
      requiredFeatures, extensions, includedCategories, excludedCategories, recordCounts,
      sqliteSizeBytes, sqliteSha256⟩ : PortableMigrationManifest)))
    fun manifest => ⟨?_, ?_⟩
  · rintro ⟨_, format, _, formatVersion, _, exportId, _, createdAt, _, sourceAppVersion, _,
      sourcePlatform, _, databaseGeneration, _, databaseSchemaVersion, _, portableSchemaProfile,
      _, minimumImporterVersion, _, transportKeyId, _, encryptionVersion, _, exportPolicyVersion,
      _, requiredFeatures, _, extensions, _, includedCategories, _, excludedCategories, _,
      recordCounts, _, sqliteSizeBytes, _, sqliteSha256, ⟨⟩⟩
    exact ⟨format, formatVersion, exportId, createdAt, sourceAppVersion, sourcePlatform,
      databaseGeneration, databaseSchemaVersion, portableSchemaProfile, minimumImporterVersion,
      transportKeyId, encryptionVersion, exportPolicyVersion, requiredFeatures, extensions,
      includedCategories, excludedCategories, recordCounts, sqliteSizeBytes, sqliteSha256⟩
  · rintro ⟨format, formatVersion, exportId, createdAt, sourceAppVersion, sourcePlatform,
      databaseGeneration, databaseSchemaVersion, portableSchemaProfile, minimumImporterVersion,
      transportKeyId, encryptionVersion, exportPolicyVersion, requiredFeatures, extensions,
      includedCategories, excludedCategories, recordCounts, sqliteSizeBytes, sqliteSha256⟩
    exact ⟨_, format, _, formatVersion, _, exportId, _, createdAt, _, sourceAppVersion, _,
      sourcePlatform, _, databaseGeneration, _, databaseSchemaVersion, _, portableSchemaProfile,
      _, minimumImporterVersion, _, transportKeyId, _, encryptionVersion, _,
      exportPolicyVersion, _, requiredFeatures, _, extensions, _, includedCategories, _,
      excludedCategories, _, recordCounts, _, sqliteSizeBytes, _, sqliteSha256, rfl⟩

/-! ### Checks -/

/-- Not empty and not too long. -/
def Short (text : String) : Prop := text ≠ "" ∧ text.utf8ByteSize ≤ maxShortStringBytes

instance (text : String) : Decidable (Short text) := inferInstanceAs (Decidable (_ ∧ _))

def categories : List String := categoryCoreData :: categoryHistory :: alwaysExcluded

/-- Every category is on one side, and once. -/
structure Sorted (included excluded : List String) : Prop where
  each : (included ++ excluded).Perm categories
  core : categoryCoreData ∈ included
  always : ∀ category ∈ alwaysExcluded, category ∈ excluded

theorem validateCategories_ok {included excluded : List String} :
    validateCategories included excluded = .ok () ↔ Sorted included excluded := by
  have distinct : categories.Nodup := by decide +kernel
  have history : categoryHistory ∈ categories := by decide +kernel
  rw [validateCategories, then_ok, then_ok, then_ok, require_ok, require_ok, require_ok, require_ok]
  change _ ∧ _ ∧ ((∀ category ∈ included, category ∈ categories) ∧
    (∀ category ∈ excluded, category ∈ categories) ∧ _) ∧ _ ↔ _
  constructor
  · rintro ⟨once, onceExcluded, ⟨known, knownExcluded, apart, core, oneSide⟩, always⟩
    have alone := List.nodup_append'.mpr ⟨once, onceExcluded, fun _ mem => apart _ mem⟩
    refine ⟨(List.perm_ext_iff_of_nodup alone distinct).mpr fun category => ⟨fun mem => ?_,
      fun mem => ?_⟩, core, fun category mem => (always category mem).1⟩
    · exact (List.mem_append.mp mem).elim (known category) (knownExcluded category)
    · rw [List.mem_append]
      rcases List.mem_cons.mp mem with rfl | mem
      · exact .inl core
      · rcases List.mem_cons.mp mem with rfl | mem
        · by_cases here : categoryHistory ∈ included
          · exact .inl here
          · exact .inr (by tauto)
        · exact .inr (always category mem).1
  · rintro ⟨each, core, always⟩
    obtain ⟨once, onceExcluded, apart⟩ := List.nodup_append'.mp (each.nodup_iff.mpr distinct)
    have placed := List.mem_append.mp (each.mem_iff.mpr history)
    refine ⟨once, onceExcluded, ⟨fun category mem => each.mem_iff.mp (List.mem_append_left _ mem),
      fun category mem => each.mem_iff.mp (List.mem_append_right _ mem), fun _ mem => apart mem,
      core, fun same => ?_⟩, fun category mem => ⟨always category mem, fun is =>
        apart is (always category mem)⟩⟩
    rcases placed with here | here
    · exact apart here (same.mp here)
    · exact apart (same.mpr here) here

theorem checkedAdd_fold {counts : List (String × UInt64)} {start total : Nat}
    (small : start < 2 ^ 64) :
    counts.foldlM (fun total entry => checkedAdd total entry.2.toNat) start = some total ↔
      total = start + (counts.map (·.2.toNat)).sum ∧ total < 2 ^ 64 := by
  induction counts generalizing start with
  | nil =>
    rw [List.foldlM_nil, List.map_nil, List.sum_nil]
    constructor
    · intro same
      cases same
      exact ⟨rfl, small⟩
    · rintro ⟨rfl, -⟩
      rfl
  | cons entry rest ih =>
    rw [List.foldlM_cons, Option.bind_eq_bind, Option.bind_eq_some_iff, List.map_cons,
      List.sum_cons]
    simp only [checkedAdd, Option.ite_none_right_eq_some, Option.some.injEq]
    constructor
    · rintro ⟨mid, ⟨less, rfl⟩, folded⟩
      obtain ⟨rfl, fits⟩ := (ih less).mp folded
      exact ⟨by omega, fits⟩
    · rintro ⟨rfl, fits⟩
      exact ⟨_, ⟨by omega, rfl⟩, (ih (by omega)).mpr ⟨by omega, fits⟩⟩

/-- The counts are those of the tables expected, none of them too many, nor all together. -/
structure Counted (counts : List (String × UInt64)) (expected : List String)
    (limits : PortableMigrationLimitsV1) : Prop where
  few : counts.length ≤ limits.maxRecordCounts ∧ counts.length = expected.length
  known : ∀ entry ∈ counts, entry.1 ∈ expected
  complete : ∀ key ∈ expected, key ∈ counts.map (·.1)
  each : ∀ entry ∈ counts, entry.2.toNat ≤ limits.maxRowsPerTable
  total : (counts.map (·.2.toNat)).sum < 2 ^ 64 ∧
    (counts.map (·.2.toNat)).sum ≤ limits.maxTotalUserTableRows

theorem validateRecordCounts_ok {counts : List (String × UInt64)} {expected : List String}
    {limits : PortableMigrationLimitsV1} :
    validateRecordCounts counts expected limits = .ok () ↔ Counted counts expected limits := by
  have start : (0 : Nat) < 2 ^ 64 := by decide
  rw [validateRecordCounts, then_ok, then_ok, bind_ok]
  simp only [require_ok, orError_ok, checkedAdd_fold start, Nat.zero_add]
  constructor
  · rintro ⟨few, ⟨known, complete, each⟩, _, ⟨rfl, small⟩, total⟩
    exact ⟨few, known, complete, each, small, total⟩
  · rintro ⟨few, known, complete, each, small, total⟩
    exact ⟨few, ⟨known, complete, each⟩, _, ⟨rfl, small⟩, total⟩

/-- What the checks let through. -/
structure Valid (codecs : Codecs) (manifest : PortableMigrationManifest) (expected : List String)
    (limits : PortableMigrationLimitsV1) : Prop where
  versions : manifest.format = portableMigrationFormat ∧ manifest.formatVersion = 1 ∧
    manifest.databaseGeneration = 2 ∧ 17 ≤ manifest.databaseSchemaVersion ∧
    manifest.portableSchemaProfile = portableMigrationSchemaProfile ∧
    manifest.encryptionVersion = 1 ∧ manifest.exportPolicyVersion = 1
  platform : Short manifest.sourcePlatform
  source : codecs.semver manifest.sourceAppVersion = some manifest.sourceAppVersion
  importer : codecs.semver manifest.minimumImporterVersion = some manifest.minimumImporterVersion
  exportId : validateUuidV7 codecs manifest.exportId = .ok ()
  transportKeyId : "transport:".toList.isPrefixOf manifest.transportKeyId.toList ∧
    validateUuidV7 codecs (.ofList (manifest.transportKeyId.toList.drop 10)) = .ok ()
  createdAt : manifest.createdAt.toList.getLast? = some 'Z' ∧
    codecs.rfc3339 manifest.createdAt = some (0, manifest.createdAt)
  digest : ∃ digest : Bytes32, manifest.sqliteSha256 = codecs.standard.encode digest.val
  features : manifest.requiredFeatures.length ≤ limits.maxRequiredFeatures ∧
    (∀ feature ∈ manifest.requiredFeatures, validateFeatureName feature limits) ∧
    manifest.requiredFeatures.Nodup
  extensions : validateExtensions codecs manifest.extensions limits = .ok ()
  categories : Sorted manifest.includedCategories manifest.excludedCategories
  counts : Counted manifest.recordCounts expected limits

theorem validateSemver_ok {codecs : Codecs} {value : String} :
    validateSemver codecs value = .ok () ↔ codecs.semver value = some value := by
  simp only [validateSemver, bind_ok, orError_ok, require_ok]
  exact ⟨fun ⟨version, is, same⟩ => same ▸ is, fun is => ⟨value, is, rfl⟩⟩

theorem validateUtcRfc3339_ok {codecs : Codecs} {value : String} :
    validateUtcRfc3339 codecs value = .ok () ↔
      value.toList.getLast? = some 'Z' ∧ codecs.rfc3339 value = some (0, value) := by
  simp only [validateUtcRfc3339, bind_ok, orError_ok]
  constructor
  · rintro ⟨⟨offset, canonical⟩, is, checked⟩
    obtain ⟨rfl, last, rfl⟩ := require_ok.mp checked
    exact ⟨last, is⟩
  · rintro ⟨last, is⟩
    exact ⟨_, is, require_ok.mpr ⟨rfl, last, rfl⟩⟩

theorem length_digest (standard : Base64.Engine) (digest : Bytes32) :
    (standard.encode digest.val).utf8ByteSize = 44 ∧
      (standard.encode digest.val).toList.getLast? = some '=' := by
  refine ⟨?_, standard.padded _ ?_⟩
  · rw [standard.utf8ByteSize_encode, digest.property]
  · rw [digest.property]
    decide

theorem decodeSha256Digest_iff {standard : Base64.Engine} {value : String} {digest : Bytes32} :
    decodeSha256Digest standard value = .ok digest ↔ value = standard.encode digest.val := by
  constructor
  · intro decoded
    exact (decodeSha256Digest_ok decoded).symm
  · rintro rfl
    refine then_ok.mpr ⟨require_ok.mpr (length_digest standard digest), bind_ok.mpr ⟨digest.val, ?_,
      bind_ok.mpr ⟨digest, dif_pos digest.property, then_ok.mpr ⟨require_ok.mpr rfl, rfl⟩⟩⟩⟩
    rw [standard.decode_encode]
    rfl

theorem validateManifest_ok {codecs : Codecs} {manifest : PortableMigrationManifest}
    {expected : List String} {limits : PortableMigrationLimitsV1} :
    validateManifest codecs manifest expected limits = .ok () ↔
      Valid codecs manifest expected limits := by
  simp only [validateManifest, then_ok]
  rw [bind_ok]
  simp only [then_ok, require_ok, validateShortString, validateSemver_ok, validateUtcRfc3339_ok,
    decodeSha256Digest_iff, validateFeatures, validateCategories_ok, validateRecordCounts_ok]
  constructor
  · rintro ⟨versions, platform, source, importer, exportId, pre, transport, createdAt,
      ⟨digest, is, features, extensions, categories, counts⟩⟩
    exact ⟨versions, platform, source, importer, exportId, ⟨pre, transport⟩, createdAt,
      ⟨digest, is⟩, features, extensions, categories, counts⟩
  · rintro ⟨versions, platform, source, importer, exportId, ⟨pre, transport⟩, createdAt,
      ⟨digest, is⟩, features, extensions, categories, counts⟩
    exact ⟨versions, platform, source, importer, exportId, pre, transport, createdAt,
      ⟨digest, is, features, extensions, categories, counts⟩⟩

theorem eq_object_of_asObject {value : Value} {entries : List (String × Value)}
    (is : value.asObject = some entries) : value = .object entries := by
  cases value with
  | object members =>
    cases is
    rfl
  | _ => cases is

theorem takeManifest_iff {entries left : List (String × Value)}
    {manifest : PortableMigrationManifest} :
    takeManifest entries = .ok (manifest, left) ↔ Holds entries manifest ∧
      left = entries.filter (·.1 ∉ PortableMigrationManifest.topLevelFields) := by
  have all := takeManifest_fields entries [] (fun _ _ => List.not_mem_nil) manifest left
  rwa [List.nil_append, List.filter_eq_self.mpr (by simp)] at all

/-- A text that repeats no key and is not too deep, whose members are the fields of this
manifest, which passes the checks. -/
structure Accepted (codecs : Codecs) (bytes : Bytes) (expected : List String)
    (limits : PortableMigrationLimitsV1) (manifest : PortableMigrationManifest)
    (entries : List (String × Value)) : Prop where
  fits : bytes.length ≤ limits.maxManifestBytes
  ended : (codecs.fromSlice bytes).2 = false
  strict : (codecs.fromSlice bytes).1.Strict
  visited : visit (codecs.fromSlice bytes).1 = .ok (.object entries)
  shallow : deepest (.object entries) ≤ limits.maxJsonDepth
  keys : (entries.map (·.1)).Perm PortableMigrationManifest.topLevelFields
  holds : Holds entries manifest
  valid : Valid codecs manifest expected limits

section
variable {codecs : Codecs} {bytes : Bytes} {expected : List String}
  {limits : PortableMigrationLimitsV1} {manifest : PortableMigrationManifest}

theorem accepted_of_parse (parsed : parseManifest codecs bytes expected limits = .ok manifest) :
    ∃ entries, Accepted codecs bytes expected limits manifest entries := by
  have valid := validateManifest_ok.mp (validateManifest_of_parseManifest parsed)
  obtain ⟨fits, parsed⟩ := then_ok.mp parsed
  obtain ⟨value, read, parsed⟩ := bind_ok.mp parsed
  obtain ⟨shallow, parsed⟩ := then_ok.mp parsed
  obtain ⟨entries, isObject, parsed⟩ := bind_ok.mp parsed
  obtain ⟨known, parsed⟩ := then_ok.mp parsed
  obtain ⟨⟨taken, left⟩, took, parsed⟩ := bind_ok.mp parsed
  obtain ⟨-, parsed⟩ := then_ok.mp parsed
  obtain ⟨-, same⟩ := then_ok.mp parsed
  cases same
  obtain ⟨visited, isVisited, read⟩ := bind_ok.mp read
  obtain ⟨ended, same⟩ := then_ok.mp read
  cases same
  obtain rfl := eq_object_of_asObject (orError_ok.mp isObject)
  have holds := (takeManifest_iff.mp took).1
  refine ⟨entries, require_ok.mp fits, require_ok.mp ended, (visit_accepts _).mp ⟨_, isVisited⟩,
    isVisited, ?_, ?_, holds, valid⟩
  · have depth := (walk_ok_iff 0 _ _).mp shallow
    rwa [Nat.zero_add] at depth
  · refine (List.perm_ext_iff_of_nodup (visit_distinct isVisited) (by decide +kernel)).mpr
      fun key => ⟨fun mem => ?_, holds.mem key⟩
    obtain ⟨entry, there, rfl⟩ := List.mem_map.mp mem
    exact require_ok.mp known entry there

theorem parse_of_accepted {entries : List (String × Value)}
    (accepted : Accepted codecs bytes expected limits manifest entries) :
    parseManifest codecs bytes expected limits = .ok manifest := by
  obtain ⟨fits, ended, -, visited, shallow, keys, holds, valid⟩ := accepted
  have known (entry : String × Value) (mem : entry ∈ entries) :
      entry.1 ∈ PortableMigrationManifest.topLevelFields :=
    keys.mem_iff.mp (List.mem_map_of_mem mem)
  refine then_ok.mpr ⟨require_ok.mpr fits, bind_ok.mpr ⟨.object entries,
    bind_ok.mpr ⟨.object entries, visited, then_ok.mpr ⟨require_ok.mpr ended, rfl⟩⟩,
    then_ok.mpr ⟨(walk_ok_iff 0 _ _).mpr ((Nat.zero_add _).symm ▸ shallow),
    bind_ok.mpr ⟨entries, rfl, then_ok.mpr ⟨require_ok.mpr known, bind_ok.mpr ⟨(manifest, []),
    takeManifest_iff.mpr ⟨holds, ?_⟩, then_ok.mpr ⟨rfl,
    then_ok.mpr ⟨validateManifest_ok.mpr valid, rfl⟩⟩⟩⟩⟩⟩⟩⟩
  exact (List.filter_eq_nil_iff.mpr fun entry mem => by simpa using known entry mem).symm

/-- Exactly such texts are accepted. -/
theorem manifest_accepted_iff :
    parseManifest codecs bytes expected limits = .ok manifest ↔
      ∃ entries, Accepted codecs bytes expected limits manifest entries :=
  ⟨accepted_of_parse, fun ⟨_, accepted⟩ => parse_of_accepted accepted⟩

end

end RelayPool.Portable
