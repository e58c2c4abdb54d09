import RelayPool.Cutover.Snapshot

/-! What the operations do to the registry when they succeed. -/
namespace RelayPool.Cutover
open Table Fallible

namespace RegistryDb
variable {db db' : RegistryDb} {id : String} {row : RuntimeGenerationRow} {clock nowMs : Int}

/-! ### Components -/

/-- What is bound in order stays so. -/
def Carried (components components' : Components) : Prop :=
  ∀ (db : RegistryDb) row, { db with components }.validateComponentBindings row = .ok () →
    { db with components := components' }.validateComponentBindings row = .ok ()

theorem Carried.refl (components : Components) : Carried components components :=
  fun _ _ h => h

theorem Carried.trans {a b c : Components} (first : Carried a b) (second : Carried b c) :
    Carried a c :=
  fun db row h => second db row (first db row h)

/-- A component in order keeps its binding. -/
def Settled (rows rows' : List ComponentGeneration) : Prop :=
  ∀ id component binding, lookup (·.generationId) rows id = some component →
    ComponentGeneration.binding component = .ok (some binding) →
    ∃ component', lookup (·.generationId) rows' id = some component' ∧
      ComponentGeneration.binding component' = .ok (some binding)

/-- A policy keeps its revision and its version. -/
def Staged (rows rows' : List StagedPolicy) : Prop :=
  ∀ id policy, lookup (·.policyGenerationId) rows id = some policy →
    ∃ policy', lookup (·.policyGenerationId) rows' id = some policy' ∧
      policy'.configRevision = policy.configRevision ∧
      policy'.stagedPolicyVersion = policy.stagedPolicyVersion

theorem Settled.refl (rows : List ComponentGeneration) : Settled rows rows :=
  fun _ component _ found bound => ⟨component, found, bound⟩

theorem Staged.refl (rows : List StagedPolicy) : Staged rows rows :=
  fun _ policy found => ⟨policy, found, rfl, rfl⟩

theorem validateComponentBindings_ok (h : db.validateComponentBindings row = .ok ()) :
    ∃ policy quality circuit,
      lookup (·.policyGenerationId) db.components.policies row.policyGenerationId = some policy ∧
      lookup (·.generationId) db.components.quality row.qualityGenerationId = some quality ∧
      lookup (·.generationId) db.components.circuit row.circuitGenerationId = some circuit ∧
      policy.configRevision = row.policyRevision ∧
      policy.stagedPolicyVersion = "routing-policy-v3" ∧
      ComponentGeneration.binding quality = .ok (some ⟨row.qualityPolicyRevision,
        row.inputObservationWatermark, row.qualityInputHash, row.qualityContentHash,
        row.qualityCheckpointRef⟩) ∧
      ComponentGeneration.binding circuit = .ok (some ⟨row.circuitPolicyRevision,
        row.inputCircuitEventWatermark, row.circuitInputHash, row.circuitContentHash,
        row.circuitCheckpointRef⟩) := by
  unfold validateComponentBindings at h
  split at h
  · rename_i policy quality circuit policyFound qualityFound circuitFound
    obtain ⟨qualityBinding, qualityIs, h⟩ := bind_ok.mp h
    obtain ⟨circuitBinding, circuitIs, h⟩ := bind_ok.mp h
    rcases ite_ok.mp h with ⟨⟨revision, version, rfl, rfl⟩, -⟩ | ⟨-, h⟩
    · exact ⟨policy, quality, circuit, policyFound, qualityFound, circuitFound, revision, version,
        qualityIs, circuitIs⟩
    · cases h
  · cases h

theorem validateComponentBindings_of {policy : StagedPolicy} {quality circuit : ComponentGeneration}
    (policyFound : lookup (·.policyGenerationId) db.components.policies row.policyGenerationId =
      some policy)
    (qualityFound : lookup (·.generationId) db.components.quality row.qualityGenerationId =
      some quality)
    (circuitFound : lookup (·.generationId) db.components.circuit row.circuitGenerationId =
      some circuit)
    (revision : policy.configRevision = row.policyRevision)
    (version : policy.stagedPolicyVersion = "routing-policy-v3")
    (qualityIs : ComponentGeneration.binding quality = .ok (some ⟨row.qualityPolicyRevision,
      row.inputObservationWatermark, row.qualityInputHash, row.qualityContentHash,
      row.qualityCheckpointRef⟩))
    (circuitIs : ComponentGeneration.binding circuit = .ok (some ⟨row.circuitPolicyRevision,
      row.inputCircuitEventWatermark, row.circuitInputHash, row.circuitContentHash,
      row.circuitCheckpointRef⟩)) : db.validateComponentBindings row = .ok () := by
  unfold validateComponentBindings
  rw [policyFound, qualityFound, circuitFound]
  show (ComponentGeneration.binding quality >>= _) = _
  rw [qualityIs, circuitIs]
  exact if_pos ⟨revision, version, rfl, rfl⟩

theorem Carried.of {components components' : Components}
    (policies : Staged components.policies components'.policies)
    (quality : Settled components.quality components'.quality)
    (circuit : Settled components.circuit components'.circuit) :
    Carried components components' := by
  intro db row h
  obtain ⟨policy, qualityRow, circuitRow, policyFound, qualityFound, circuitFound, revision,
    version, qualityIs, circuitIs⟩ := validateComponentBindings_ok h
  obtain ⟨policy', policyFound', revision', version'⟩ := policies _ _ policyFound
  obtain ⟨quality', qualityFound', qualityIs'⟩ := quality _ _ _ qualityFound qualityIs
  obtain ⟨circuit', circuitFound', circuitIs'⟩ := circuit _ _ _ circuitFound circuitIs
  exact validateComponentBindings_of policyFound' qualityFound' circuitFound'
    (revision'.trans revision) (version'.trans version) qualityIs' circuitIs'

/-! ### Switching components -/

/-- Only components change, and what is bound in order stays so. -/
structure Switched (db db' : RegistryDb) : Prop where
  only : db' = { db with components := db'.components }
  carried : Carried db.components db'.components

theorem Switched.refl (db : RegistryDb) : Switched db db := ⟨rfl, .refl _⟩

theorem Switched.trans {a b c : RegistryDb} (first : Switched a b) (second : Switched b c) :
    Switched a c := by
  refine ⟨?_, first.carried.trans second.carried⟩
  rw [second.only, first.only]

theorem Switched.marker (switched : Switched db db') : db'.marker = db.marker := by
  rw [switched.only]

theorem binding_ok {component : ComponentGeneration} {binding : Binding}
    (h : ComponentGeneration.binding component = .ok (some binding)) :
    validComponentStatus component.status := by
  unfold ComponentGeneration.binding at h
  simp only [bind_ok] at h
  obtain ⟨_, -, _, -, _, -, _, -, _, -, h⟩ := h
  rcases ite_ok.mp h with ⟨⟨-, valid, -⟩, -⟩ | ⟨-, h⟩
  · exact valid
  · cases pure_ok.mp h

theorem binding_of_valid {component component' : ComponentGeneration} {binding : Binding}
    (valid : validComponentStatus component'.status)
    (same : { component with
      status := component'.status
      activatedAtMs := component'.activatedAtMs
      updatedAtMs := component'.updatedAtMs } = component')
    (h : ComponentGeneration.binding component = .ok (some binding)) :
    ComponentGeneration.binding component' = .ok (some binding) := by
  have was := binding_ok h
  unfold ComponentGeneration.binding at h ⊢
  rw [← same]
  simpa only [valid, was] using h

theorem Settled.put {rows : List ComponentGeneration} {component component' : ComponentGeneration}
    (found : lookup (·.generationId) rows component'.generationId = some component)
    (keeps : ∀ binding, ComponentGeneration.binding component = .ok (some binding) →
      ComponentGeneration.binding component' = .ok (some binding)) :
    Settled rows (put (·.generationId) component' rows) := by
  intro id other binding other' bound
  rw [lookup_put]
  split
  · rename_i here
    subst here
    obtain rfl : component = other := Option.some.inj (found.symm.trans other')
    exact ⟨component', by rw [other']; rfl, keeps binding bound⟩
  · exact ⟨other, other', bound⟩

theorem Staged.put {rows : List StagedPolicy} {policy policy' : StagedPolicy}
    (found : lookup (·.policyGenerationId) rows policy'.policyGenerationId = some policy)
    (revision : policy'.configRevision = policy.configRevision)
    (version : policy'.stagedPolicyVersion = policy.stagedPolicyVersion) :
    Staged rows (put (·.policyGenerationId) policy' rows) := by
  intro id other other'
  rw [lookup_put]
  split
  · rename_i here
    subst here
    obtain rfl : policy = other := Option.some.inj (found.symm.trans other')
    exact ⟨policy', by rw [other']; rfl, revision, version⟩
  · exact ⟨other, other', rfl, rfl⟩

theorem updatePolicy_ok {p : StagedPolicyStatus → Bool} {status : StagedPolicyStatus}
    (h : db.updatePolicy id p status nowMs = .ok db') : Switched db db' := by
  unfold updatePolicy at h
  split at h
  · cases h
  · rename_i policy affected
    obtain ⟨found, -⟩ := Option.filter_eq_some_iff.mp affected
    obtain ⟨-, h⟩ := check_ok.mp h
    cases h
    have key : policy.policyGenerationId = id := (lookup_some found).2
    subst key
    have staged := @Staged.put db.components.policies policy
      { policy with status, updatedAtMs := nowMs } found rfl rfl
    exact ⟨rfl, .of staged (.refl _) (.refl _)⟩

theorem switchComponent_ok {rows : List ComponentGeneration} {p : ComponentStatus → Bool}
    {f : ComponentGeneration → ComponentGeneration} {rows' : Option (List ComponentGeneration)}
    (h : switchComponent rows id p f = .ok rows')
    (keeps : ∀ component binding, ComponentGeneration.binding component = .ok (some binding) →
      ComponentGeneration.binding (f component) = .ok (some binding))
    (same : ∀ component, (f component).generationId = component.generationId) :
    Settled rows (rows'.getD rows) := by
  unfold switchComponent at h
  split at h
  · cases h
    exact .refl rows
  · rename_i component affected
    obtain ⟨found, -⟩ := Option.filter_eq_some_iff.mp affected
    obtain ⟨-, h⟩ := check_ok.mp h
    cases h
    have key : (f component).generationId = id := (same component).trans (lookup_some found).2
    exact .put (key ▸ found) (keeps component)

theorem retireComponent_ok {rows rows' : List ComponentGeneration} {source target : String}
    (h : retireComponent rows source target nowMs = .ok rows') : Settled rows rows' := by
  unfold retireComponent at h
  split at h
  · cases h
    exact .refl rows
  · obtain ⟨switched, is, h⟩ := bind_ok.mp h
    rw [← pure_ok.mp h]
    refine switchComponent_ok is (fun component binding bound => ?_) fun _ => rfl
    exact @binding_of_valid component _ _ rfl rfl bound

theorem activateComponent_ok {entity : String} {rows rows' : List ComponentGeneration}
    {target : String} (h : activateComponent entity rows target nowMs = .ok rows') :
    Settled rows rows' := by
  unfold activateComponent at h
  obtain ⟨switched, is, h⟩ := bind_ok.mp h
  split at h
  · rw [← pure_ok.mp h]
    refine switchComponent_ok is (fun component binding bound => ?_) fun _ => rfl
    exact @binding_of_valid component _ _ rfl rfl bound
  · cases h

theorem Switched.components {quality circuit : List ComponentGeneration}
    (first : Settled db.components.quality quality)
    (second : Settled db.components.circuit circuit) :
    Switched db ((db.withQuality quality).withCircuit circuit) :=
  ⟨rfl, .of (.refl _) first second⟩

theorem retireSource_ok {source : String} {target : RuntimeGenerationRow}
    (h : db.retireSource source target nowMs = .ok db') : Switched db db' := by
  unfold retireSource at h
  obtain ⟨found, -, h⟩ := bind_ok.mp h
  split at h
  · cases h
  · rename_i source
    have rest (b : RegistryDb) (first : Switched db b) (h : (do
        let quality ← retireComponent b.components.quality source.qualityGenerationId
          target.qualityGenerationId nowMs
        let circuit ← retireComponent b.components.circuit source.circuitGenerationId
          target.circuitGenerationId nowMs
        return (b.withQuality quality).withCircuit circuit) = .ok db') : Switched db db' := by
      obtain ⟨quality, qualityIs, h⟩ := bind_ok.mp h
      obtain ⟨circuit, circuitIs, h⟩ := bind_ok.mp h
      rw [← pure_ok.mp h]
      exact first.trans (.components (retireComponent_ok qualityIs) (retireComponent_ok circuitIs))
    rcases ite_ok.mp h with ⟨-, h⟩ | ⟨-, h⟩
    · obtain ⟨b, is, h⟩ := bind_ok.mp h
      exact rest b (updatePolicy_ok is) h
    · exact rest db (.refl db) h

theorem switchComponentStatuses_ok {fence : RoutingGenerationFence} {target : RuntimeGenerationRow}
    (h : db.switchComponentStatuses fence target nowMs = .ok db') : Switched db db' := by
  unfold switchComponentStatuses at h
  have rest (a : RegistryDb) (first : Switched db a) (h : (do
      let b ← a.updatePolicy target.policyGenerationId
        (fun status => status = StagedPolicyStatus.ready ∨
          status = StagedPolicyStatus.active ∨ status = StagedPolicyStatus.retired) .active nowMs
      let quality ← activateComponent "routing_quality_generation_v3" b.components.quality
        target.qualityGenerationId nowMs
      let circuit ← activateComponent "routing_circuit_generation_v3" b.components.circuit
        target.circuitGenerationId nowMs
      return (b.withQuality quality).withCircuit circuit) = .ok db') : Switched db db' := by
    obtain ⟨b, policied, h⟩ := bind_ok.mp h
    obtain ⟨quality, qualityIs, h⟩ := bind_ok.mp h
    obtain ⟨circuit, circuitIs, h⟩ := bind_ok.mp h
    rw [← pure_ok.mp h]
    exact (first.trans (updatePolicy_ok policied)).trans
      (.components (activateComponent_ok qualityIs) (activateComponent_ok circuitIs))
  dsimp only at h
  split at h
  · obtain ⟨a, is, h⟩ := bind_ok.mp h
    exact rest a (retireSource_ok is) h
  · exact rest db (.refl db) h

end RegistryDb

end RelayPool.Cutover
