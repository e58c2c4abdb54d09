import RelayPool.Collection.Reduction
import RelayPool.Fallible

/-! The laws of the reduction of a collection (`reduceCollection_lawful`).

A reduction that is not refused stands on one sound outcome for each task of the plan
(`Collected`, `reduceCollection_ok`), and what it makes of them reads each task's outcome by
its task: the order of the outcomes does not matter, and the status is one of the core
tasks alone. -/
namespace RelayPool.Collection
open Fallible Table
open Protocol (trim)

variable {plan : CollectionPlan} {operationId : String} {fence : RevisionFence}
  {outcomes outcomes' : List TaskOutcome} {previous : Option CollectionProjection}

/-! ### Outcomes that can be reduced -/

structure Sound (plan : CollectionPlan) (operationId : String) (fence : RevisionFence)
    (outcome : TaskOutcome) : Prop where
  named : trim outcome.operationId ≠ ""
  operation : outcome.operationId = operationId
  fenced : outcome.fence = fence
  planned : plan.specFor outcome.task ≠ none
  succeeded : outcome.completion = .succeeded → outcome.failureClass = none
  failed : outcome.completion = .failed → outcome.failureClass ≠ none
  observed : 0 ≤ outcome.observedAtMs

/-- One sound outcome for each task of the plan, under one operation and one fence. -/
structure Collected (plan : CollectionPlan) (operationId : String) (fence : RevisionFence)
    (outcomes : List TaskOutcome) : Prop where
  nonempty : outcomes ≠ []
  trimmed : trim operationId = operationId
  sound : ∀ outcome ∈ outcomes, Sound plan operationId fence outcome
  keyed : Keyed (·.task) outcomes
  covers : ∀ spec ∈ plan.tasks, spec.task ∈ outcomes.map (·.task)

theorem Collected.perm (collected : Collected plan operationId fence outcomes)
    (perm : outcomes.Perm outcomes') : Collected plan operationId fence outcomes' where
  nonempty empty := collected.nonempty (List.perm_nil.mp (empty ▸ perm))
  trimmed := collected.trimmed
  sound outcome member := collected.sound outcome (perm.mem_iff.mpr member)
  keyed := (perm.map _).nodup_iff.mp collected.keyed
  covers spec member := (perm.map _).mem_iff.mp (collected.covers spec member)

theorem checkOutcomes_ok {seen result : List CollectionTaskKind} :
    checkOutcomes plan operationId fence seen outcomes = .ok result ↔
      (∀ outcome ∈ outcomes, Sound plan operationId fence outcome) ∧
        Keyed (·.task) outcomes ∧ (∀ outcome ∈ outcomes, outcome.task ∉ seen) ∧
        (outcomes.map (·.task)).reverse ++ seen = result := by
  induction outcomes generalizing seen with
  | nil => simp [checkOutcomes, Keyed]
  | cons outcome rest ih =>
    simp only [checkOutcomes, check_ok, ih, List.mem_cons, forall_eq_or_imp]
    constructor
    · rintro ⟨named, operation, fenced, fresh, planned, succeeded, failed, observed, sound, keyed,
        unseen, rfl⟩
      refine ⟨⟨⟨named, not_not.mp operation, not_not.mp fenced, ?_, ?_, ?_, not_lt.mp observed⟩,
        sound⟩, ?_, ⟨fresh, ?_⟩, ?_⟩
      · simpa using planned
      · simpa using succeeded
      · simpa [Option.ne_none_iff_isSome] using failed
      · refine List.nodup_cons.mpr ⟨fun member => ?_, keyed⟩
        obtain ⟨other, member, same⟩ := List.mem_map.mp member
        exact unseen other member (.inl same)
      · exact fun other member again => unseen other member (.inr again)
      · simp
    · rintro ⟨⟨first, sound⟩, keyed, ⟨fresh, unseen⟩, rfl⟩
      have parts := List.nodup_cons.mp keyed
      refine ⟨first.named, not_not.mpr first.operation, not_not.mpr first.fenced, fresh, ?_, ?_, ?_,
        not_lt.mpr first.observed, sound, parts.2, fun other member => ?_, ?_⟩
      · simpa using first.planned
      · simpa using first.succeeded
      · simpa [Option.ne_none_iff_isSome] using first.failed
      · refine fun again => again.elim (fun same => parts.1 ?_)
          (unseen other member)
        exact List.mem_map.mpr ⟨other, member, same⟩
      · simp

/-! ### Reductions that are not refused -/

/-- The outcomes are in order, the plan is valid, and the watermark is not in conflict. -/
theorem reduceCollection_ok {reduction : CollectionReduction} :
    reduceCollection plan outcomes previous = .ok reduction ↔
      ∃ operationId fence axes, plan.validate = .ok () ∧
        Collected plan operationId fence outcomes ∧
        watermark previous operationId fence = .ok axes ∧
        reduction = if axes ≠ [] then .stale axes
          else .applied (projectionOf plan outcomes operationId fence) := by
  constructor
  · intro reduced
    obtain ⟨⟨⟩, valid, reduced⟩ := bind_ok.mp reduced
    cases outcomes with
    | nil => cases reduced
    | cons first rest =>
      obtain ⟨-, reduced⟩ := check_ok.mp reduced
      obtain ⟨seen, checked, reduced⟩ := bind_ok.mp reduced
      obtain ⟨sound, keyed, -, rfl⟩ := checkOutcomes_ok.mp checked
      split at reduced
      · cases reduced
      · rename_i covers
        obtain ⟨axes, marked, reduced⟩ := bind_ok.mp reduced
        have operation := (sound first (List.mem_cons_self ..)).operation
        refine ⟨_, _, axes, mapError_ok.mp valid, ⟨nofun, ?_, sound, keyed, ?_⟩,
          marked, ?_⟩
        · exact congrArg trim operation.symm
        · intro spec member
          have known := List.find?_eq_none.mp covers spec member
          rwa [decide_eq_true_eq, not_not, List.append_nil, List.mem_reverse] at known
        · split at reduced
          · cases reduced
            exact (if_pos ‹_›).symm
          · cases reduced
            exact (if_neg ‹_›).symm
  · rintro ⟨operationId, fence, axes, valid, collected, marked, rfl⟩
    refine bind_ok.mpr ⟨(), mapError_ok.mpr valid, ?_⟩
    cases outcomes with
    | nil => exact absurd rfl collected.nonempty
    | cons first rest =>
      have sound := collected.sound first (List.mem_cons_self ..)
      obtain rfl : trim first.operationId = operationId := by
        rw [sound.operation, collected.trimmed]
      obtain rfl := sound.fenced
      refine check_ok.mpr ⟨sound.named, bind_ok.mpr ⟨_, checkOutcomes_ok.mpr
        ⟨collected.sound, collected.keyed, fun _ _ => List.not_mem_nil, rfl⟩, ?_⟩⟩
      have covers : plan.tasks.find? (fun spec =>
          spec.task ∉ ((first :: rest).map (·.task)).reverse ++ []) = none := by
        refine List.find?_eq_none.mpr fun spec member => ?_
        rw [decide_eq_true_eq, not_not, List.append_nil, List.mem_reverse]
        exact collected.covers spec member
      rw [covers]
      refine bind_ok.mpr ⟨axes, marked, ?_⟩
      split <;> rfl

theorem applied_ok {projection : CollectionProjection} :
    reduceCollection plan outcomes previous = .ok (.applied projection) ↔
      ∃ operationId fence, plan.validate = .ok () ∧ Collected plan operationId fence outcomes ∧
        watermark previous operationId fence = .ok [] ∧
        projection = projectionOf plan outcomes operationId fence := by
  rw [reduceCollection_ok]
  constructor
  · rintro ⟨operationId, fence, axes, valid, collected, marked, is⟩
    split at is
    · cases is
    · rename_i upToDate
      obtain rfl := not_not.mp upToDate
      exact ⟨operationId, fence, valid, collected, marked, CollectionReduction.applied.inj is⟩
  · rintro ⟨operationId, fence, valid, collected, marked, rfl⟩
    exact ⟨operationId, fence, [], valid, collected, marked, rfl⟩

/-! ### The order of the outcomes -/

theorem Collected.lookup_perm (collected : Collected plan operationId fence outcomes)
    (perm : outcomes.Perm outcomes') (task : CollectionTaskKind) :
    lookup (·.task) outcomes' task = lookup (·.task) outcomes task := by
  refine Option.ext fun outcome => ?_
  rw [collected.keyed.lookup_iff, (collected.perm perm).keyed.lookup_iff, perm.mem_iff]

theorem Collected.projectionOf_perm (collected : Collected plan operationId fence outcomes)
    (perm : outcomes.Perm outcomes') :
    projectionOf plan outcomes' operationId fence = projectionOf plan outcomes operationId fence := by
  have tasks : projectTasks plan outcomes' = projectTasks plan outcomes := by
    simp only [projectTasks, collected.lookup_perm perm]
  simp only [projectionOf, tasks]

theorem toOption_some {ε α : Type} {x : Except ε α} {a : α} : x.toOption = some a ↔ x = .ok a := by
  cases x <;> simp [Except.toOption]

theorem reduceCollection_perm (perm : outcomes.Perm outcomes') {reduction : CollectionReduction}
    (reduced : reduceCollection plan outcomes previous = .ok reduction) :
    reduceCollection plan outcomes' previous = .ok reduction := by
  obtain ⟨operationId, fence, axes, valid, collected, marked, rfl⟩ := reduceCollection_ok.mp reduced
  rw [← collected.projectionOf_perm perm]
  exact reduceCollection_ok.mpr ⟨_, _, axes, valid, collected.perm perm, marked, rfl⟩

/-! ### The status -/

section Counts
variable {tasks : List TaskProjection} {completion : Completion} {freshness : Freshness}

theorem coreCount_eq_zero : coreCount tasks completion = 0 ↔
    ∀ t ∈ tasks, t.role = .core → t.completion ≠ completion := by
  simp [coreCount, List.countP_eq_zero]

theorem anyCore_eq_false : anyCore tasks freshness = false ↔
    ∀ t ∈ tasks, t.role = .core → t.freshness ≠ freshness := by
  simp [anyCore]

theorem anyCore_iff : anyCore tasks freshness ↔
    0 < tasks.countP fun t => t.role = .core ∧ t.freshness = freshness := by
  rw [List.countP_pos_iff, anyCore, List.any_eq_true]

theorem statusOf_healthy {coreTaskCount : Nat} (pos : 0 < coreTaskCount) :
    statusOf tasks coreTaskCount = .healthy ↔
      ∀ t ∈ tasks, t.role = .core → t.completion = .succeeded ∧ t.freshness = .fresh := by
  constructor
  · intro healthy t member core
    unfold statusOf at healthy
    split at healthy
    · cases healthy
    split at healthy
    · cases healthy
    split at healthy
    · cases healthy
    split at healthy
    · cases healthy
    split at healthy
    · cases healthy
    rename_i whole notStale known
    simp only [not_or, Nat.not_lt, Nat.le_zero] at whole
    have failed := coreCount_eq_zero.mp whole.1 t member core
    have incomplete := coreCount_eq_zero.mp whole.2.1 t member core
    have skipped := coreCount_eq_zero.mp whole.2.2 t member core
    have stale := anyCore_eq_false.mp (Bool.eq_false_of_not_eq_true notStale) t member core
    have unknown := anyCore_eq_false.mp (Bool.eq_false_of_not_eq_true known) t member core
    constructor
    · cases is : t.completion <;> simp_all
    · cases is : t.freshness <;> simp_all
  · intro healthy
    have none_of {completion : Completion} (other : completion ≠ .succeeded) :
        coreCount tasks completion = 0 :=
      coreCount_eq_zero.mpr fun t member core is =>
        other (is ▸ (healthy t member core).1)
    have fresh_of {freshness : Freshness} (other : freshness ≠ .fresh) :
        anyCore tasks freshness = false :=
      anyCore_eq_false.mpr fun t member core is => other (is ▸ (healthy t member core).2)
    have failed : coreCount tasks .failed = 0 := none_of nofun
    have incomplete : coreCount tasks .partially = 0 := none_of nofun
    have skipped : coreCount tasks .skipped = 0 := none_of nofun
    have notStale : anyCore tasks .stale = false := fresh_of nofun
    have known : anyCore tasks .unknown = false := fresh_of nofun
    simp [statusOf, failed, incomplete, skipped, notStale, known, pos.ne]

end Counts

theorem CollectionPlan.core_of_validate (valid : plan.validate = .ok ()) :
    0 < plan.tasks.countP (·.role = .core) := by
  obtain ⟨-, valid⟩ := check_ok.mp valid
  obtain ⟨-, valid⟩ := check_ok.mp valid
  obtain ⟨⟨⟩, -, valid⟩ := bind_ok.mp valid
  obtain ⟨core, -⟩ := check_ok.mp valid
  rw [Bool.not_eq_true', Bool.not_eq_false] at core
  exact List.countP_pos_iff.mpr (List.any_eq_true.mp core)

theorem Collected.outcome_of (collected : Collected plan operationId fence outcomes)
    {spec : TaskSpec} (member : spec ∈ plan.tasks) :
    ∃ outcome, lookup (·.task) outcomes spec.task = some outcome := by
  obtain ⟨outcome, reported, same⟩ := List.mem_map.mp (collected.covers spec member)
  exact ⟨outcome, collected.keyed.lookup_iff.mpr ⟨reported, same⟩⟩

theorem Collected.healthy_iff (collected : Collected plan operationId fence outcomes)
    (valid : plan.validate = .ok ()) :
    (projectionOf plan outcomes operationId fence).status = .healthy ↔
      ∀ spec ∈ plan.tasks, spec.role = .core → ∃ outcome ∈ outcomes, outcome.task = spec.task ∧
        outcome.completion = .succeeded ∧ outcome.freshness = .fresh := by
  refine (statusOf_healthy (CollectionPlan.core_of_validate valid)).trans ?_
  constructor
  · intro healthy spec member core
    obtain ⟨outcome, found⟩ := collected.outcome_of member
    obtain ⟨reported, same⟩ := lookup_some found
    have projected : taskProjection spec outcome ∈ projectTasks plan outcomes :=
      List.mem_filterMap.mpr ⟨spec, member, by rw [found]; rfl⟩
    exact ⟨outcome, reported, same, healthy _ projected core⟩
  · intro healthy t projected core
    obtain ⟨spec, member, here⟩ := List.mem_filterMap.mp projected
    obtain ⟨outcome, found, rfl⟩ := Option.map_eq_some_iff.mp here
    obtain ⟨other, reported, same, succeeded⟩ := healthy spec member core
    obtain ⟨reported', same'⟩ := lookup_some found
    obtain rfl := collected.keyed.inj reported reported' (same.trans same'.symm)
    exact succeeded

/-- Two collections agree on the core tasks of the plan. -/
def SameCore (plan : CollectionPlan) (outcomes outcomes' : List TaskOutcome) : Prop :=
  ∀ spec ∈ plan.tasks, spec.role = .core → ∀ outcome ∈ outcomes, ∀ outcome' ∈ outcomes',
    outcome.task = spec.task → outcome'.task = spec.task →
    outcome.completion = outcome'.completion ∧ outcome.freshness = outcome'.freshness

/-- The status is one of the core tasks alone. -/
theorem Collected.status_eq {operationId' : String} {fence' : RevisionFence}
    (collected : Collected plan operationId fence outcomes)
    (collected' : Collected plan operationId' fence' outcomes')
    (same : SameCore plan outcomes outcomes') :
    (projectionOf plan outcomes' operationId' fence').status =
      (projectionOf plan outcomes operationId fence).status := by
  have agree (p : TaskProjection → Bool)
      (core : ∀ t t', t.role = t'.role → t.completion = t'.completion →
        t.freshness = t'.freshness → p t = p t')
      (only : ∀ t, p t → t.role = .core) :
      (projectTasks plan outcomes').countP p = (projectTasks plan outcomes).countP p := by
    rw [projectTasks, projectTasks, List.countP_filterMap, List.countP_filterMap]
    refine List.countP_congr fun spec member => ?_
    obtain ⟨outcome, found⟩ := collected.outcome_of member
    obtain ⟨outcome', found'⟩ := collected'.outcome_of member
    rw [found, found']
    simp only [Option.map_some, Option.getD_some]
    by_cases isCore : spec.role = .core
    · obtain ⟨reported, is⟩ := lookup_some found
      obtain ⟨reported', is'⟩ := lookup_some found'
      have both := same spec member isCore outcome reported outcome' reported' is is'
      rw [core (taskProjection spec outcome') (taskProjection spec outcome) rfl both.1.symm
        both.2.symm]
    · constructor <;> exact fun holds => absurd (only _ holds) isCore
  have counts (completion : Completion) :
      coreCount (projectTasks plan outcomes') completion =
        coreCount (projectTasks plan outcomes) completion := by
    refine agree _ (fun t t' role completion _ => ?_) fun t holds => ?_
    · rw [role, completion]
    · exact (of_decide_eq_true holds).1
  have fresh (freshness : Freshness) :
      anyCore (projectTasks plan outcomes') freshness =
        anyCore (projectTasks plan outcomes) freshness := by
    have counted := agree (fun t => t.role = .core ∧ t.freshness = freshness)
      (fun t t' role _ is => by rw [role, is]) fun t holds => (of_decide_eq_true holds).1
    rw [Bool.eq_iff_iff, anyCore_iff, anyCore_iff, counted]
  simp only [projectionOf, statusOf, counts, fresh]

/-! ### The watermark -/

theorem RevisionFence.staleAxesAgainst_nil {current : RevisionFence} :
    fence.staleAxesAgainst current = [] ↔ current ≤ fence := by
  have le : current ≤ fence ↔ current.endpointRevision ≤ fence.endpointRevision ∧
      current.credentialRevision ≤ fence.credentialRevision ∧
      current.intentSequence ≤ fence.intentSequence := Iff.rfl
  rw [staleAxesAgainst, List.append_eq_nil_iff, List.append_eq_nil_iff, le]
  split <;> split <;> split <;> simp <;> omega

/-- The fence is not behind, and where it is the same so is the operation. -/
theorem watermark_nil {current : CollectionProjection} :
    watermark (some current) operationId fence = .ok [] ↔
      current.fence ≤ fence ∧ (fence = current.fence → operationId = current.operationId) := by
  unfold watermark
  dsimp only
  split
  · rename_i behind
    refine iff_of_false (fun is => behind (Except.ok.inj is)) fun upToDate => behind ?_
    exact RevisionFence.staleAxesAgainst_nil.mpr upToDate.1
  · rename_i upToDate
    have notBehind := RevisionFence.staleAxesAgainst_nil.mp (not_not.mp upToDate)
    rw [check_ok, not_and_not_right]
    exact ⟨fun known => ⟨notBehind, known.1⟩, fun known => ⟨known.2, rfl⟩⟩

theorem watermark_marked {axes : List RevisionAxis}
    (marked : watermark previous operationId fence = .ok axes) {current : CollectionProjection}
    (before : current ∈ previous) (same : fence = current.fence) :
    operationId = current.operationId := by
  obtain rfl : previous = some current := before
  unfold watermark at marked
  dsimp only at marked
  split at marked
  · rename_i behind
    exact absurd (RevisionFence.staleAxesAgainst_nil.mpr (same ▸ ⟨le_rfl, le_rfl, le_rfl⟩)) behind
  · exact not_and_not_right.mp (check_ok.mp marked).1 same

/-! ### The laws -/

/-- The order of the outcomes does not matter. What is applied is not behind the projection
before, is healthy exactly if every core task is, has a status of the core tasks alone, and is
what the same outcomes give again; the fence of another operation is not taken twice. -/
theorem reduceCollection_lawful (plan : CollectionPlan) (outcomes : List TaskOutcome)
    (previous : Option CollectionProjection) :
    (∀ outcomes', outcomes.Perm outcomes' →
      (reduceCollection plan outcomes' previous).toOption =
        (reduceCollection plan outcomes previous).toOption) ∧
    (∀ projection, reduceCollection plan outcomes previous = .ok (.applied projection) →
      (∀ current ∈ previous, current.fence ≤ projection.fence) ∧
      (projection.status = .healthy ↔ ∀ spec ∈ plan.tasks, spec.role = .core →
        ∃ outcome ∈ outcomes, outcome.task = spec.task ∧ outcome.completion = .succeeded ∧
          outcome.freshness = .fresh) ∧
      (∀ outcomes' previous' projection',
        reduceCollection plan outcomes' previous' = .ok (.applied projection') →
          SameCore plan outcomes outcomes' → projection'.status = projection.status) ∧
      reduceCollection plan outcomes (some projection) = .ok (.applied projection)) ∧
    ∀ current ∈ previous, (∃ outcome ∈ outcomes, outcome.fence = current.fence ∧
      outcome.operationId ≠ current.operationId) →
      ∃ e, reduceCollection plan outcomes previous = .error e := by
  refine ⟨fun outcomes' perm => ?_, fun projection applied => ?_, ?_⟩
  · refine Option.ext fun reduction => ?_
    rw [toOption_some, toOption_some]
    exact ⟨reduceCollection_perm perm.symm, reduceCollection_perm perm⟩
  · obtain ⟨operationId, fence, valid, collected, marked, rfl⟩ := applied_ok.mp applied
    refine ⟨?_, collected.healthy_iff valid, ?_, ?_⟩
    · rintro current rfl
      exact (watermark_nil.mp marked).1
    · intro outcomes' previous' projection' applied' same
      obtain ⟨_, _, -, collected', -, rfl⟩ := applied_ok.mp applied'
      exact collected.status_eq collected' same
    · have again : watermark (some (projectionOf plan outcomes operationId fence)) operationId fence
          = .ok [] := watermark_nil.mpr ⟨⟨le_rfl, le_rfl, le_rfl⟩, fun _ => rfl⟩
      exact applied_ok.mpr ⟨operationId, fence, valid, collected, again, rfl⟩
  · rintro current before ⟨outcome, reported, same, other⟩
    cases reduced : reduceCollection plan outcomes previous with
    | error e => exact ⟨e, rfl⟩
    | ok reduction =>
      obtain ⟨operationId, fence, axes, -, collected, marked, -⟩ := reduceCollection_ok.mp reduced
      have sound := collected.sound outcome reported
      refine absurd (sound.operation.trans ?_) other
      exact watermark_marked marked before (sound.fenced.symm.trans same)

end RelayPool.Collection
