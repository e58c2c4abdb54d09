import RelayPool.Mapping.Resolver

/-! What the resolution fence commits to.

The fence hashes the mapping revision, then the rules, then the profiles, then
the bindings, each entry as its id followed by its numbers. No length, count or
separator is written. Documents of one layout are told apart. Otherwise, as long
as every revision leaves its first byte free, the input tells the rules from what
follows them, and one entry from the next, but not the last profile from the
first binding (`fence_commits`): a profile with a greater id than the others may
be turned into the first binding without changing the fence
(`fence_misses_kind`). -/
namespace RelayPool.Mapping
open Bytes Ranking

/-- What a configuration has of what the fence is about, in the order of the fence. -/
structure Commitment where
  revision : UInt64
  rules : List (String × UInt64 × UInt32)
  profiles : List (String × UInt64)
  bindings : List (String × UInt64)
deriving DecidableEq

def commitment (c : CompiledModelMappingConfiguration) : Commitment :=
  { revision := c.mappingRevision
    rules := c.rules.map fun rule => (rule.id, rule.revision, rule.priority)
    profiles := profileVector c.profiles
    bindings := bindingVector c.bindings }

def hashInput (c : CompiledModelMappingConfiguration) : List UInt8 :=
  fenceInput c.mappingRevision c.rules c.profiles c.bindings

/-- Equal inputs of the hash imply equal commitments. -/
def Commits (left right : CompiledModelMappingConfiguration) : Prop :=
  hashInput left = hashInput right → commitment left = commitment right

/-- The byte lengths of the ids, list by list. -/
def layout (c : CompiledModelMappingConfiguration) : List Nat × List Nat × List Nat :=
  (c.rules.map (·.id.utf8ByteSize), (profileVector c.profiles).map (·.1.utf8ByteSize),
    (bindingVector c.bindings).map (·.1.utf8ByteSize))

/-- Every revision leaves its first byte free. -/
structure SmallRevisions (c : CompiledModelMappingConfiguration) : Prop where
  rules : ∀ rule ∈ c.rules, rule.revision.toNat < 2 ^ 56
  profiles : ∀ profile ∈ c.profiles, profile.revision.toNat < 2 ^ 56
  bindings : ∀ binding ∈ c.bindings, binding.revision.toNat < 2 ^ 56

/-- The two agree on everything but where the profiles end and the bindings begin. -/
structure SplitsElsewhere (left right : CompiledModelMappingConfiguration) : Prop where
  revision : left.mappingRevision = right.mappingRevision
  rules : (commitment left).rules = (commitment right).rules
  entries : (commitment left).profiles ++ (commitment left).bindings =
    (commitment right).profiles ++ (commitment right).bindings
  elsewhere : (commitment left).profiles.length ≠ (commitment right).profiles.length

/-! ### Entries -/

/-- An id that begins an entry can be found again: it is not empty and has no zero byte. -/
def Legible (id : String) : Prop := id ≠ "" ∧ '\x00' ∉ id.toList

theorem legible_of_valid {id : String} {maxBytes : Nat}
    (valid : validIdentifier id maxBytes = true) : Legible id := by
  obtain ⟨visible, -, clean⟩ := of_decide_eq_true valid
  refine ⟨?_, fun null => clean (List.any_eq_true.mpr ⟨'\x00', null, by decide⟩)⟩
  rintro rfl
  exact visible (by decide)

structure LegibleEntry (entry : String × UInt64) : Prop where
  id : Legible entry.1
  revision : entry.2.toNat < 2 ^ 56

structure LegibleRule (rule : CompiledRule) : Prop where
  id : Legible rule.id
  revision : rule.revision.toNat < 2 ^ 56
  priority : rule.priority.toNat < 2 ^ 24

/-- No entry begins with a zero byte. -/
theorem entries_ne_zero_cons {entries : List (String × UInt64)}
    (legible : ∀ entry ∈ entries, LegibleEntry entry) (rest : List UInt8) :
    entries.flatMap revisionRecord ≠ 0 :: rest := by
  cases entries with
  | nil => exact nofun
  | cons entry entries =>
    intro same
    obtain ⟨nonempty, clean⟩ := (legible entry List.mem_cons_self).id
    rw [List.flatMap_cons, revisionRecord] at same
    cases bytes : utf8 entry.1 with
    | nil => exact nonempty (utf8_inj bytes)
    | cons byte more =>
      rw [bytes] at same
      have zero := (List.cons.inj same).1
      exact zero_notMem_utf8 clean (by rw [bytes, zero]; exact List.mem_cons_self)

theorem entry_ne_nil (entry : String × UInt64) (rest : List UInt8) :
    revisionRecord entry ++ rest ≠ [] := by
  intro empty
  have lengths := congrArg List.length empty
  simp [revisionRecord] at lengths

theorem entries_inj {left right : List (String × UInt64)}
    (legibleLeft : ∀ entry ∈ left, LegibleEntry entry)
    (legibleRight : ∀ entry ∈ right, LegibleEntry entry)
    (same : left.flatMap revisionRecord = right.flatMap revisionRecord) : left = right := by
  induction left generalizing right with
  | nil =>
    cases right with
    | nil => rfl
    | cons entry right => exact absurd same.symm (entry_ne_nil entry _)
  | cons entry left ih =>
    cases right with
    | nil => exact absurd same (entry_ne_nil entry _)
    | cons other right =>
      have here := legibleLeft entry List.mem_cons_self
      have there := legibleRight other List.mem_cons_self
      obtain ⟨ids, revisions, rest⟩ :=
        record_inj here.id.2 there.id.2 here.revision there.revision same
      have entries := ih (fun e mem => legibleLeft e (List.mem_cons_of_mem _ mem))
        (fun e mem => legibleRight e (List.mem_cons_of_mem _ mem)) rest
      rw [entries, Prod.ext ids (UInt64.toNat_inj.mp revisions)]

/-- What the fence takes of a rule. -/
def ruleEntry (rule : CompiledRule) : String × UInt64 × UInt32 :=
  (rule.id, rule.revision, rule.priority)

/-- A rule's priority begins with the zero byte that no entry begins with. -/
theorem rule_ne_entries {rule : CompiledRule} {rules : List UInt8}
    {entries : List (String × UInt64)} (legible : LegibleRule rule)
    (legibleEntries : ∀ entry ∈ entries, LegibleEntry entry) :
    ruleRecord rule ++ rules ≠ entries.flatMap revisionRecord := by
  intro same
  cases entries with
  | nil =>
    have lengths := congrArg List.length same
    simp [ruleRecord] at lengths
  | cons entry entries =>
    have here := legibleEntries entry List.mem_cons_self
    rw [ruleRecord, List.append_assoc, List.flatMap_cons] at same
    obtain ⟨-, -, rest⟩ :=
      record_inj legible.id.2 here.id.2 legible.revision here.revision same
    rw [beBytes_succ_of_lt legible.priority] at rest
    exact entries_ne_zero_cons (fun e mem => legibleEntries e (List.mem_cons_of_mem _ mem)) _
      rest.symm

/-- The rules are told from the entries that follow them. -/
theorem rules_entries_inj {left right : List CompiledRule} {more other : List (String × UInt64)}
    (legibleLeft : ∀ rule ∈ left, LegibleRule rule)
    (legibleRight : ∀ rule ∈ right, LegibleRule rule)
    (legibleMore : ∀ entry ∈ more, LegibleEntry entry)
    (legibleOther : ∀ entry ∈ other, LegibleEntry entry)
    (same : left.flatMap ruleRecord ++ more.flatMap revisionRecord =
      right.flatMap ruleRecord ++ other.flatMap revisionRecord) :
    left.map ruleEntry = right.map ruleEntry ∧ more = other := by
  induction left generalizing right with
  | nil =>
    cases right with
    | nil => exact ⟨rfl, entries_inj legibleMore legibleOther same⟩
    | cons rule right =>
      rw [List.flatMap_cons, List.append_assoc] at same
      exact absurd same.symm
        (rule_ne_entries (legibleRight rule List.mem_cons_self) legibleMore)
  | cons rule left ih =>
    cases right with
    | nil =>
      rw [List.flatMap_cons, List.append_assoc] at same
      exact absurd same (rule_ne_entries (legibleLeft rule List.mem_cons_self) legibleOther)
    | cons next right =>
      have here := legibleLeft rule List.mem_cons_self
      have there := legibleRight next List.mem_cons_self
      simp only [List.flatMap_cons, ruleRecord, List.append_assoc] at same
      rw [← List.append_assoc, ← List.append_assoc (utf8 next.id)] at same
      obtain ⟨ids, revisions, rest⟩ :=
        record_inj here.id.2 there.id.2 here.revision there.revision same
      obtain ⟨priorities, rest⟩ := List.append_inj rest (by simp)
      obtain ⟨rules, entries⟩ := ih (fun r mem => legibleLeft r (List.mem_cons_of_mem _ mem))
        (fun r mem => legibleRight r (List.mem_cons_of_mem _ mem)) rest
      have entry : ruleEntry rule = ruleEntry next := by
        refine Prod.ext ids (Prod.ext (UInt64.toNat_inj.mp revisions) (UInt32.toNat_inj.mp ?_))
        exact beBytes_inj rule.priority.toNat_lt next.priority.toNat_lt priorities
      exact ⟨by rw [List.map_cons, List.map_cons, entry, rules], entries⟩

/-! ### Documents of one layout -/

theorem entries_inj_of_layout {left right : List (String × UInt64)} {x y : List UInt8}
    (layout : left.map (·.1.utf8ByteSize) = right.map (·.1.utf8ByteSize))
    (same : left.flatMap revisionRecord ++ x = right.flatMap revisionRecord ++ y) :
    left = right ∧ x = y := by
  induction left generalizing right with
  | nil =>
    obtain rfl := List.map_eq_nil_iff.mp layout.symm
    exact ⟨rfl, same⟩
  | cons entry left ih =>
    cases right with
    | nil => exact absurd layout nofun
    | cons other right =>
      obtain ⟨size, sizes⟩ := List.cons.inj layout
      rw [List.flatMap_cons, List.flatMap_cons, List.append_assoc, List.append_assoc] at same
      obtain ⟨ids, revisions, rest⟩ :=
        record_inj_of_length size entry.2.toNat_lt other.2.toNat_lt same
      obtain ⟨rfl, tails⟩ := ih sizes rest
      exact ⟨by rw [Prod.ext ids (UInt64.toNat_inj.mp revisions)], tails⟩

theorem rules_inj_of_layout {left right : List CompiledRule} {x y : List UInt8}
    (layout : left.map (·.id.utf8ByteSize) = right.map (·.id.utf8ByteSize))
    (same : left.flatMap ruleRecord ++ x = right.flatMap ruleRecord ++ y) :
    left.map ruleEntry = right.map ruleEntry ∧ x = y := by
  induction left generalizing right with
  | nil =>
    obtain rfl := List.map_eq_nil_iff.mp layout.symm
    exact ⟨rfl, same⟩
  | cons rule left ih =>
    cases right with
    | nil => exact absurd layout nofun
    | cons next right =>
      obtain ⟨size, sizes⟩ := List.cons.inj layout
      simp only [List.flatMap_cons, ruleRecord, List.append_assoc] at same
      rw [← List.append_assoc, ← List.append_assoc (utf8 next.id)] at same
      obtain ⟨ids, revisions, rest⟩ :=
        record_inj_of_length size rule.revision.toNat_lt next.revision.toNat_lt same
      obtain ⟨priorities, rest⟩ := List.append_inj rest (by simp)
      obtain ⟨rules, tails⟩ := ih sizes rest
      have entry : ruleEntry rule = ruleEntry next := by
        refine Prod.ext ids (Prod.ext (UInt64.toNat_inj.mp revisions) (UInt32.toNat_inj.mp ?_))
        exact beBytes_inj rule.priority.toNat_lt next.priority.toNat_lt priorities
      exact ⟨by rw [List.map_cons, List.map_cons, entry, rules], tails⟩

/-! ### Configurations -/

section Configurations
variable {left right : CompiledModelMappingConfiguration}

/-- The revision comes first and always takes eight bytes. -/
theorem hashInput_revision (same : hashInput left = hashInput right) :
    left.mappingRevision = right.mappingRevision ∧
      left.rules.flatMap ruleRecord ++ (profileVector left.profiles).flatMap revisionRecord ++
          (bindingVector left.bindings).flatMap revisionRecord =
        right.rules.flatMap ruleRecord ++ (profileVector right.profiles).flatMap revisionRecord ++
          (bindingVector right.bindings).flatMap revisionRecord := by
  simp only [hashInput, fenceInput, List.append_assoc] at same
  obtain ⟨revision, rest⟩ := List.append_inj same (by simp)
  refine ⟨UInt64.toNat_inj.mp (beBytes_inj left.mappingRevision.toNat_lt
    right.mappingRevision.toNat_lt revision), ?_⟩
  simp only [List.append_assoc]
  exact rest

theorem commits_of_layout (same : layout left = layout right) : Commits left right := by
  intro equal
  obtain ⟨ruleSizes, rest⟩ := Prod.mk.inj same
  obtain ⟨profileSizes, bindingSizes⟩ := Prod.mk.inj rest
  obtain ⟨revision, records⟩ := hashInput_revision equal
  rw [List.append_assoc, List.append_assoc] at records
  obtain ⟨rules, entries⟩ := rules_inj_of_layout ruleSizes records
  obtain ⟨profiles, tails⟩ := entries_inj_of_layout profileSizes entries
  have bindings := entries_inj_of_layout (x := []) (y := []) bindingSizes
    (by rw [List.append_nil, List.append_nil]; exact tails)
  exact Commitment.mk.injEq .. |>.mpr ⟨revision, rules, profiles, bindings.1⟩

/-- The entries of a configuration can be read back. -/
structure LegibleConfiguration (c : CompiledModelMappingConfiguration) : Prop where
  rules : ∀ rule ∈ c.rules, LegibleRule rule
  profiles : ∀ entry ∈ profileVector c.profiles, LegibleEntry entry
  bindings : ∀ entry ∈ bindingVector c.bindings, LegibleEntry entry

theorem LegibleConfiguration.entries {c : CompiledModelMappingConfiguration}
    (legible : LegibleConfiguration c) :
    ∀ entry ∈ profileVector c.profiles ++ bindingVector c.bindings, LegibleEntry entry :=
  fun entry mem => (List.mem_append.mp mem).elim (legible.profiles entry) (legible.bindings entry)

/-- Where the entries can be read back, only the end of the profiles is lost. -/
theorem commits_iff (legibleLeft : LegibleConfiguration left)
    (legibleRight : LegibleConfiguration right) :
    Commits left right ↔ ¬ SplitsElsewhere left right := by
  constructor
  · intro commits splits
    have joined : (profileVector left.profiles).flatMap revisionRecord ++
          (bindingVector left.bindings).flatMap revisionRecord =
        (profileVector right.profiles).flatMap revisionRecord ++
          (bindingVector right.bindings).flatMap revisionRecord := by
      rw [← List.flatMap_append, ← List.flatMap_append]
      exact congrArg (List.flatMap revisionRecord) splits.entries
    have rules : left.rules.flatMap ruleRecord = right.rules.flatMap ruleRecord := by
      have record (rules : List CompiledRule) : rules.flatMap ruleRecord =
          (rules.map ruleEntry).flatMap fun entry =>
            utf8 entry.1 ++ beBytes 8 entry.2.1.toNat ++ beBytes 4 entry.2.2.toNat := by
        rw [List.flatMap_map]
        rfl
      rw [record, record]
      exact congrArg _ splits.rules
    refine splits.elsewhere (congrArg (·.profiles.length) (commits ?_))
    simp only [hashInput, fenceInput, List.append_assoc, splits.revision, joined, rules]
  · intro unsplit same
    obtain ⟨revision, records⟩ := hashInput_revision same
    rw [List.append_assoc, List.append_assoc, ← List.flatMap_append, ← List.flatMap_append]
      at records
    obtain ⟨rules, entries⟩ := rules_entries_inj legibleLeft.rules legibleRight.rules
      legibleLeft.entries legibleRight.entries records
    by_contra different
    refine unsplit ⟨revision, rules, entries, fun lengths => different ?_⟩
    obtain ⟨profiles, bindings⟩ := List.append_inj entries lengths
    exact Commitment.mk.injEq .. |>.mpr ⟨revision, rules, profiles, bindings⟩

end Configurations

/-! ### Two documents -/

/-- A document without rules. -/
def plainDocument (profiles : List ModelProfile) (bindings : List ModelOfferingBinding) :
    ModelMappingDocumentV1 :=
  { formatVersion := modelMappingFormatVersion
    baseRevision := 6
    policy := ⟨.preserve⟩
    rules := []
    profiles
    bindings }

def plainProfile (id canonicalModel : String) (revision : UInt64) : ModelProfile :=
  { id
    canonicalModel
    displayName := "Profile"
    defaultUpstreamModel := none
    status := .active
    note := none
    revision
    createdAtMs := 0
    updatedAtMs := 0 }

def plainBinding (id modelProfileId : String) (revision : UInt64) : ModelOfferingBinding :=
  { id
    modelProfileId
    stationKeyId := some "key"
    stationId := none
    upstreamModel := "model"
    enabled := true
    note := none
    revision
    createdAtMs := 0
    updatedAtMs := 0 }

/-- The second profile of the first document is the binding of the second. -/
def twoProfiles : ModelMappingDocumentV1 :=
  plainDocument [plainProfile "p" "gpt-5" 1, plainProfile "x" "gpt-4" 2] []

def profileAndBinding : ModelMappingDocumentV1 :=
  plainDocument [plainProfile "p" "gpt-5" 1] [plainBinding "x" "p" 2]

theorem twoProfiles_compiles :
    compileAtRevision id twoProfiles 7 = .ok (configuration id twoProfiles 7) := by
  decide +kernel

theorem profileAndBinding_compiles :
    compileAtRevision id profileAndBinding 7 = .ok (configuration id profileAndBinding 7) := by
  decide +kernel

/-! ### Documents that compile -/

theorem legible_rules {document : ModelMappingDocumentV1} :
    ∀ rule ∈ compiledRules document,
      Legible rule.id ∧ rule.priority.toNat < 2 ^ 24 := by
  intro rule mem
  obtain ⟨source, -, -, clean, rfl⟩ := mem_compiledRules mem
  simp only [ruleReports, List.append_eq_nil_iff, report_eq_nil] at clean
  obtain ⟨⟨⟨⟨⟨⟨id, priority⟩, -⟩, -⟩, -⟩, -⟩, -⟩ := clean
  rw [decide_eq_false_iff_not, not_not] at id priority
  refine ⟨legible_of_valid id, ?_⟩
  have within := UInt32.le_iff_toNat_le.mp priority.2
  exact Nat.lt_of_le_of_lt within (by decide)

/-- Every id of a document without a report begins an entry that can be found again. -/
theorem legible_ids {document : ModelMappingDocumentV1} (clean : diagnose document = []) :
    (∀ profile ∈ document.profiles, Legible profile.id) ∧
      ∀ binding ∈ document.bindings, Legible binding.id := by
  simp only [diagnose, List.append_eq_nil_iff, validateProfilesAndBindings] at clean
  obtain ⟨⟨⟨⟨⟨-, ⟨-, profiles⟩, bindings⟩, -⟩, -⟩, -⟩, -⟩ := clean
  refine ⟨fun profile mem => ?_, fun binding mem => ?_⟩
  · obtain ⟨index, found⟩ := List.getElem?_of_mem mem
    have each := reportEach_eq_nil.mp profiles index profile found
    simp only [validateProfile, List.append_eq_nil_iff, report_eq_nil] at each
    obtain ⟨⟨⟨⟨⟨⟨id, -⟩, -⟩, -⟩, -⟩, -⟩, -⟩ := each
    rw [decide_eq_false_iff_not, not_not] at id
    exact legible_of_valid id
  · obtain ⟨index, found⟩ := List.getElem?_of_mem mem
    have each := reportEach_eq_nil.mp bindings index binding found
    simp only [validateBinding, List.append_eq_nil_iff, report_eq_nil] at each
    obtain ⟨⟨⟨⟨⟨⟨⟨⟨⟨id, -⟩, -⟩, -⟩, -⟩, -⟩, -⟩, -⟩, -⟩, -⟩ := each
    rw [decide_eq_false_iff_not, not_not] at id
    exact legible_of_valid id

section Documents
variable {sha256 : List UInt8 → List UInt8} {document other : ModelMappingDocumentV1}
  {revision revision' : UInt64} {left right : CompiledModelMappingConfiguration}

theorem legible_of_compiled (compiled : compileAtRevision sha256 document revision = .ok left)
    (small : SmallRevisions left) : LegibleConfiguration left := by
  obtain ⟨clean, rfl⟩ := (compileAtRevision_ok sha256).mp compiled
  obtain ⟨profiles, bindings⟩ := legible_ids clean
  refine ⟨fun rule mem => ?_, fun entry mem => ?_, fun entry mem => ?_⟩
  · obtain ⟨id, priority⟩ := legible_rules rule (mem_sortBy.mp mem)
    exact ⟨id, small.rules rule mem, priority⟩
  · obtain ⟨profile, present, rfl⟩ := List.mem_map.mp mem
    have present := mem_sortBy.mp present
    exact ⟨profiles profile present, small.profiles profile present⟩
  · obtain ⟨binding, present, rfl⟩ := List.mem_map.mp mem
    have present := mem_sortBy.mp present
    exact ⟨bindings binding present, small.bindings binding present⟩

/-- The input of the hash of two documents tells what they commit to when their ids have
the same lengths, and otherwise, unless a revision takes all its bytes, exactly when
nothing but the end of the profiles is between them. -/
theorem fence_commits (compiled : compileAtRevision sha256 document revision = .ok left)
    (compiled' : compileAtRevision sha256 other revision' = .ok right) :
    (layout left = layout right → Commits left right) ∧
      (SmallRevisions left → SmallRevisions right →
        (Commits left right ↔ ¬ SplitsElsewhere left right)) :=
  ⟨commits_of_layout, fun small small' =>
    commits_iff (legible_of_compiled compiled small) (legible_of_compiled compiled' small')⟩

end Documents

theorem fence_commits_sample :
    Commits (configuration id twoProfiles 7) (configuration id profileAndBinding 7) ↔
      ¬ SplitsElsewhere (configuration id twoProfiles 7) (configuration id profileAndBinding 7) :=
  (fence_commits twoProfiles_compiles profileAndBinding_compiles).2
    ⟨by decide +kernel, by decide +kernel, by decide +kernel⟩
    ⟨by decide +kernel, by decide +kernel, by decide +kernel⟩

/-- The two have one input and do not have the same profiles. -/
theorem fence_misses_kind :
    compileAtRevision id twoProfiles 7 = .ok (configuration id twoProfiles 7) ∧
      compileAtRevision id profileAndBinding 7 = .ok (configuration id profileAndBinding 7) ∧
      ¬ Commits (configuration id twoProfiles 7) (configuration id profileAndBinding 7) := by
  refine ⟨twoProfiles_compiles, profileAndBinding_compiles, fun commits => ?_⟩
  exact absurd (commits (by decide +kernel)) (by decide +kernel)

end RelayPool.Mapping
