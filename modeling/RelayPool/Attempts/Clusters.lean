import RelayPool.Attempts.Changes
import Mathlib.Data.List.Dedup

/-! The clusters of a finished request.

The first finalization of a request writes a cluster for each key it tried, and hands
out the sample of the attempt with the highest index (`Represents`). A later one finds
the clusters and hands out nothing (`finalizeRequestClusters_cases`). -/
namespace RelayPool.Attempts
open Circuit (PersistenceError)
open Table Growth Fallible

/-! ### The attempts of a key -/

/-- The last row of an ordered list comes after the others. -/
theorem le_getLast {α : Type*} {r : α → α → Prop} {rows : List α} (ordered : rows.Pairwise r)
    {last : α} (h : rows.getLast? = some last) : ∀ row ∈ rows, row = last ∨ r row last := by
  obtain ⟨before, rfl⟩ := List.getLast?_eq_some_iff.mp h
  obtain ⟨-, -, between⟩ := List.pairwise_append.mp ordered
  intro row mem
  rcases List.mem_append.mp mem with earlier | here
  · exact .inr (between row earlier last (List.mem_singleton_self last))
  · exact .inl (List.mem_singleton.mp here)

theorem attemptIndex_le {a b : AttemptRow} (h : orderKey a ≤ orderKey b)
    (sameKey : a.stationKey = b.stationKey) : a.attemptIndex ≤ b.attemptIndex := by
  obtain ⟨sameId, sameRevision⟩ := Prod.mk.inj sameKey
  unfold orderKey at h
  rw [Prod.Lex.toLex_le_toLex, or_iff_right (by simp [sameId])] at h
  have h := h.2
  rw [Prod.Lex.toLex_le_toLex, or_iff_right (by simp [sameRevision])] at h
  rcases Prod.Lex.toLex_le_toLex.mp h.2 with lt | ⟨same, -⟩
  · exact lt.le
  · exact same.le

theorem groupByKey_keys_nodup (rows : List AttemptRow) :
    ((groupByKey rows).map Prod.fst).Nodup := by
  have keys : (groupByKey rows).map Prod.fst = (rows.map AttemptRow.stationKey).dedup := by
    simp [groupByKey, Function.comp_def]
  rw [keys]
  exact List.nodup_dedup _

theorem mem_groupByKey {rows : List AttemptRow} {group : KeyGroup} :
    group ∈ groupByKey rows ↔ (∃ row ∈ rows, row.stationKey = group.1) ∧
      group.2 = rows.filter (·.stationKey = group.1) := by
  unfold groupByKey
  simp only [List.mem_map, List.mem_dedup]
  constructor
  · rintro ⟨key, ⟨row, mem, rfl⟩, rfl⟩
    exact ⟨⟨row, mem, rfl⟩, rfl⟩
  · rintro ⟨⟨row, mem, same⟩, rows_⟩
    exact ⟨group.1, ⟨row, mem, same⟩, Prod.ext rfl rows_.symm⟩

theorem exists_group {rows : List AttemptRow} {row : AttemptRow} (mem : row ∈ rows) :
    ∃ group ∈ groupByKey rows, group.1 = row.stationKey :=
  ⟨(row.stationKey, rows.filter (·.stationKey = row.stationKey)),
    mem_groupByKey.mpr ⟨⟨row, mem, rfl⟩, rfl⟩, rfl⟩

namespace Ledger

variable {ledger ledger' : Ledger} {correlationId : String}

theorem mem_eligibleAttempts {row : AttemptRow} : row ∈ ledger.eligibleAttempts correlationId ↔
    row ∈ ledger.attempts ∧ row.correlationId = correlationId ∧
      row.generationEligibility ≠ .legacy := by
  unfold eligibleAttempts attemptsOf
  rw [List.mem_insertionSort, List.mem_filter, List.mem_filter, and_assoc]
  refine and_congr_right fun _ => and_congr decide_eq_true_iff ?_
  cases row.generationEligibility <;> simp

/-- Two attempts of a request with one key differ in their index. -/
theorem eq_of_attemptIndex (kept : Kept ledger) {a b : AttemptRow}
    (ha : a ∈ ledger.eligibleAttempts correlationId)
    (hb : b ∈ ledger.eligibleAttempts correlationId) (sameKey : a.stationKey = b.stationKey)
    (sameIndex : a.attemptIndex = b.attemptIndex) : a = b := by
  obtain ⟨memA, requestA, -⟩ := mem_eligibleAttempts.mp ha
  obtain ⟨memB, requestB, -⟩ := mem_eligibleAttempts.mp hb
  obtain ⟨sameId, sameRevision⟩ := Prod.mk.inj sameKey
  refine List.inj_on_of_nodup_map kept.slots memA memB ?_
  unfold AttemptRow.slot
  rw [sameId, sameRevision, requestA, requestB, sameIndex]

/-- The last attempt of a group is the one with the highest index. -/
theorem highest_of_group (kept : Kept ledger) {group : KeyGroup} {canonical : AttemptRow}
    (mem : group ∈ groupByKey (ledger.eligibleAttempts correlationId))
    (last : group.2.getLast? = some canonical) :
    canonical ∈ ledger.eligibleAttempts correlationId ∧ canonical.stationKey = group.1 ∧
      ∀ other ∈ ledger.eligibleAttempts correlationId, other.stationKey = group.1 →
        other ≠ canonical → other.attemptIndex < canonical.attemptIndex := by
  have rows := (mem_groupByKey.mp mem).2
  have inGroup : canonical ∈ group.2 := List.mem_of_getLast? last
  rw [rows] at inGroup
  obtain ⟨eligible, sameKey⟩ := List.mem_filter.mp inGroup
  have sameKey : canonical.stationKey = group.1 := by simpa using sameKey
  refine ⟨eligible, sameKey, fun other mem' key different => ?_⟩
  have ordered : (ledger.eligibleAttempts correlationId).Pairwise (orderKey · ≤ orderKey ·) := by
    have : Std.Total fun a b : AttemptRow => orderKey a ≤ orderKey b := ⟨fun _ _ => le_total _ _⟩
    have : IsTrans AttemptRow fun a b => orderKey a ≤ orderKey b := ⟨fun _ _ _ => le_trans⟩
    exact List.pairwise_insertionSort _ _
  have inGroup' : other ∈ group.2 := by
    rw [rows]
    exact List.mem_filter.mpr ⟨mem', decide_eq_true key⟩
  have orderedGroup : group.2.Pairwise (orderKey · ≤ orderKey ·) := rows ▸ ordered.filter _
  rcases le_getLast orderedGroup last other inGroup' with same | le
  · exact absurd same different
  · have sameKeys := key.trans sameKey.symm
    refine lt_of_le_of_ne (attemptIndex_le le sameKeys) fun sameIndex => different ?_
    exact eq_of_attemptIndex kept mem' eligible sameKeys sameIndex

/-! ### Samples -/

/-- The sample stands for the attempt of the key with the highest index, and counts all
attempts of the request. -/
structure Represents (ledger : Ledger) (correlationId : String) (key : String × Int)
    (sample : FinalizedRoutingAttemptSample) : Prop where
  highest : ∃ row ∈ ledger.eligibleAttempts correlationId, row.stationKey = key ∧
    (∀ other ∈ ledger.eligibleAttempts correlationId, other.stationKey = key → other ≠ row →
      other.attemptIndex < row.attemptIndex) ∧
    ∃ finalizedAtMs, sampleOf sample.expectedAttemptCount finalizedAtMs row = .ok sample
  expected : sample.expectedAttemptCount.toNat = (ledger.eligibleAttempts correlationId).length

/-- The sample is one of this key in this request. -/
def ofKey (correlationId : String) (key : String × Int) (sample : FinalizedRoutingAttemptSample) :
    Bool :=
  sample.correlationId = correlationId ∧
    (sample.stationKeyId, (sample.stationKeyLifecycleRevision.toNat : Int)) = key

theorem sampleOf_ok {count : UInt16} {finalizedAtMs : Int} {row : AttemptRow}
    {sample : FinalizedRoutingAttemptSample} (h : sampleOf count finalizedAtMs row = .ok sample) :
    sample.expectedAttemptCount = count ∧ sample.correlationId = row.correlationId ∧
      (sample.stationKeyId, (sample.stationKeyLifecycleRevision.toNat : Int)) = row.stationKey := by
  unfold sampleOf at h
  split at h
  · simp only [guard_ok, not_not, pure_ok] at h
    obtain ⟨⟨nonneg, small⟩, -, -, rfl⟩ := h
    refine ⟨rfl, rfl, Prod.ext rfl ?_⟩
    show ((UInt64.ofNat row.stationKeyLifecycleRevision.toNat).toNat : Int) =
      row.stationKeyLifecycleRevision
    rw [UInt64.toNat_ofNat', Nat.mod_eq_of_lt (by omega)]
    omega
  · cases h

/-! ### Clusters -/

theorem insertCluster_ok {row : ClusterRow} {inserted : Bool}
    (h : ledger.insertCluster row = .ok (inserted, ledger')) :
    (inserted = false ∧ (ledger.clusterOf row.correlationId row.stationKey).isSome ∧
        ledger' = ledger) ∨
      (inserted = true ∧ ledger.clusterOf row.correlationId row.stationKey = none ∧
        ledger' = { ledger with clusters := ledger.clusters ++ [row] }) := by
  unfold insertCluster at h
  rcases ite_ok.mp h with ⟨-, h⟩ | ⟨-, h⟩
  · cases h
  rcases ite_ok.mp h with ⟨known, h⟩ | ⟨unknown, h⟩
  · obtain ⟨rfl, rfl⟩ := Prod.mk.inj (Except.ok.inj h)
    exact .inl ⟨rfl, known, rfl⟩
  · obtain ⟨rfl, rfl⟩ := Prod.mk.inj (Except.ok.inj h)
    exact .inr ⟨rfl, by simpa using unknown, rfl⟩

theorem clusterOf_concat_ne {row : ClusterRow} {key : Option (String × Int)}
    (other : row.correlationId = correlationId → row.stationKey ≠ key) :
    clusterOf { ledger with clusters := ledger.clusters ++ [row] } correlationId key =
      ledger.clusterOf correlationId key := by
  unfold clusterOf
  rw [List.find?_append, List.find?_singleton, if_neg, Option.or_none]
  simpa using other

theorem clusterOf_isSome {key : Option (String × Int)} :
    (ledger.clusterOf correlationId key).isSome ↔
      ∃ row ∈ ledger.clusters, row.correlationId = correlationId ∧ row.stationKey = key := by
  simp [clusterOf]

/-- What the loop does with one key. -/
inductive KeyFinalized (correlationId : String) (count : UInt16) (finalizedAtMs : Int)
    (samples : List FinalizedRoutingAttemptSample) (ledger : Ledger) (group : KeyGroup) :
    List FinalizedRoutingAttemptSample → Ledger → Prop
  | known : (ledger.clusterOf correlationId (some group.1)).isSome →
    KeyFinalized correlationId count finalizedAtMs samples ledger group samples ledger
  | inserted {canonical : AttemptRow} {sample : FinalizedRoutingAttemptSample}
    {row : ClusterRow} : ledger.clusterOf correlationId (some group.1) = none →
    group.2.getLast? = some canonical →
    sampleOf count (max finalizedAtMs 0) canonical = .ok sample →
    row.correlationId = correlationId → row.stationKey = some group.1 →
    KeyFinalized correlationId count finalizedAtMs samples ledger group (samples ++ [sample])
      { ledger with clusters := ledger.clusters ++ [row] }

theorem finalizeKey_cases {count : UInt16} {finalizedAtMs : Int}
    {samples samples' : List FinalizedRoutingAttemptSample} {group : KeyGroup}
    (h : finalizeKey correlationId count finalizedAtMs (samples, ledger) group =
      .ok (samples', ledger')) :
    KeyFinalized correlationId count finalizedAtMs samples ledger group samples' ledger' := by
  unfold finalizeKey at h
  split at h
  · rename_i canonical last
    simp only [bind_ok, Prod.exists] at h
    obtain ⟨inserted, next, isInserted, h⟩ := h
    rcases insertCluster_ok isInserted with ⟨rfl, known, rfl⟩ | ⟨rfl, unknown, rfl⟩
    · simp only [Bool.false_eq_true, not_false_eq_true, if_true, bind_ok, pure_ok,
        Prod.mk.injEq] at h
      obtain ⟨_, -, rfl, rfl⟩ := h
      exact .known known
    · simp only [not_true_eq_false, if_false, bind_ok, pure_ok, Prod.mk.injEq] at h
      obtain ⟨sample, isSample, rfl, rfl⟩ := h
      exact .inserted unknown last isSample rfl rfl
  · cases h

/-- A request whose keys all have clusters gets none again. -/
theorem finalizeKeys_known {count : UInt16} {finalizedAtMs : Int} {groups : List KeyGroup}
    {samples samples' : List FinalizedRoutingAttemptSample}
    (known : ∀ group ∈ groups, (ledger.clusterOf correlationId (some group.1)).isSome)
    (h : groups.foldlM (finalizeKey correlationId count finalizedAtMs) (samples, ledger) =
      .ok (samples', ledger')) : samples' = samples ∧ ledger' = ledger := by
  induction groups with
  | nil => exact Prod.mk.inj (pure_ok.mp h).symm
  | cons group rest ih =>
    simp only [List.foldlM_cons, bind_ok, Prod.exists] at h
    obtain ⟨samples₁, ledger₁, first, h⟩ := h
    have isKnown := known group (List.mem_cons_self ..)
    cases finalizeKey_cases first with
    | known _ => exact ih (fun other mem => known other (.tail _ mem)) h
    | inserted unknown _ _ _ _ => simp [unknown] at isKnown

/-- The sample comes from the last attempt of the group. -/
def SampleOfGroup (count : UInt16) (group : KeyGroup) (sample : FinalizedRoutingAttemptSample) :
    Prop :=
  ∃ canonical finalizedAtMs, group.2.getLast? = some canonical ∧
    sampleOf count finalizedAtMs canonical = .ok sample

/-- A request without clusters gets one for each of its keys, and a sample with it. -/
theorem finalizeKeys_fresh {count : UInt16} {finalizedAtMs : Int} {groups : List KeyGroup}
    {samples samples' : List FinalizedRoutingAttemptSample}
    (distinct : (groups.map Prod.fst).Nodup)
    (fresh : ∀ group ∈ groups, ledger.clusterOf correlationId (some group.1) = none)
    (h : groups.foldlM (finalizeKey correlationId count finalizedAtMs) (samples, ledger) =
      .ok (samples', ledger')) :
    ∃ new rows, samples' = samples ++ new ∧ List.Forall₂ (SampleOfGroup count) groups new ∧
      ledger' = { ledger with clusters := ledger.clusters ++ rows } ∧
      rows.map ClusterRow.stationKey = groups.map (some ·.1) ∧
      ∀ row ∈ rows, row.correlationId = correlationId := by
  induction groups generalizing samples ledger with
  | nil =>
    obtain ⟨rfl, rfl⟩ := Prod.mk.inj (pure_ok.mp h)
    exact ⟨[], [], (List.append_nil _).symm, .nil, by rw [List.append_nil], rfl, nofun⟩
  | cons group rest ih =>
    simp only [List.foldlM_cons, bind_ok, Prod.exists] at h
    obtain ⟨samples₁, ledger₁, first, h⟩ := h
    obtain ⟨notLater, distinct⟩ := List.nodup_cons.mp distinct
    cases finalizeKey_cases first with
    | known isKnown => simp [fresh group (List.mem_cons_self ..)] at isKnown
    | @inserted canonical sample row _ last isSample ofRequest isKey =>
      have stillFresh : ∀ other ∈ rest,
          clusterOf { ledger with clusters := ledger.clusters ++ [row] } correlationId
            (some other.1) = none := by
        intro other mem
        rw [clusterOf_concat_ne fun _ same => notLater ?_]
        · exact fresh other (.tail _ mem)
        · obtain same : group.1 = other.1 := Option.some.inj (isKey.symm.trans same)
          exact same ▸ List.mem_map_of_mem mem
      obtain ⟨new, rows, rfl, samplesOf, rfl, keys, requests⟩ := ih distinct stillFresh h
      refine ⟨sample :: new, row :: rows, by simp, .cons ⟨canonical, _, last, isSample⟩ samplesOf,
        by simp, by simp [isKey, keys], ?_⟩
      intro row' mem
      rcases List.mem_cons.mp mem with rfl | later
      · exact ofRequest
      · exact requests row' later

/-- What a finalization does to a ledger that has kept its invariant. -/
inductive Clustered (ledger : Ledger) (correlationId : String) :
    List FinalizedRoutingAttemptSample → Ledger → Prop
  | again : ledger.finalized correlationId → Clustered ledger correlationId [] ledger
  | empty {row : ClusterRow} : ledger.finalized correlationId = false →
    ledger.eligibleAttempts correlationId = [] → row.correlationId = correlationId →
    row.stationKey = none →
    Clustered ledger correlationId [] { ledger with clusters := ledger.clusters ++ [row] }
  | keys {samples : List FinalizedRoutingAttemptSample} {rows : List ClusterRow} {count : UInt16} :
    ledger.finalized correlationId = false →
    (∀ row ∈ ledger.eligibleAttempts correlationId, row.pending = false) →
    ledger.eligibleAttempts correlationId ≠ [] →
    count.toNat = (ledger.eligibleAttempts correlationId).length →
    List.Forall₂ (SampleOfGroup count) (groupByKey (ledger.eligibleAttempts correlationId))
      samples →
    rows.map ClusterRow.stationKey =
      (groupByKey (ledger.eligibleAttempts correlationId)).map (some ·.1) →
    (∀ row ∈ rows, row.correlationId = correlationId) →
    Clustered ledger correlationId samples { ledger with clusters := ledger.clusters ++ rows }

theorem clusterOf_none_of_unfinalized (h : ledger.finalized correlationId = false)
    (key : Option (String × Int)) : ledger.clusterOf correlationId key = none := by
  rw [← Option.not_isSome_iff_eq_none]
  exact fun some_ => Bool.eq_false_iff.mp h (finalized_of_clusterOf some_)

theorem finalizeRequestClusters_cases (kept : Kept ledger) {finalizedAtMs : Int} {fence : String}
    {samples : List FinalizedRoutingAttemptSample}
    (h : ledger.finalizeRequestClusters correlationId finalizedAtMs fence =
      .ok (samples, ledger')) : Clustered ledger correlationId samples ledger' := by
  unfold finalizeRequestClusters at h
  rcases ite_ok.mp h with ⟨noRows, h⟩ | ⟨someRows, h⟩
  · have noRows := List.isEmpty_iff.mp noRows
    simp only [bind_ok, pure_ok, Prod.exists, Prod.mk.injEq] at h
    obtain ⟨inserted, next, isInserted, rfl, rfl⟩ := h
    rcases insertCluster_ok isInserted with ⟨-, known, rfl⟩ | ⟨-, unknown, rfl⟩
    · exact .again (finalized_of_clusterOf known)
    · refine .empty (Bool.eq_false_iff.mpr fun finalized => ?_) noRows rfl rfl
      have known := (kept.clustered correlationId finalized).1 noRows
      simp [unknown] at known
  · have someRows : ledger.eligibleAttempts correlationId ≠ [] := fun none =>
      someRows (List.isEmpty_iff.mpr none)
    simp only [guard_ok] at h
    obtain ⟨ended, -, few, h⟩ := h
    cases finalized : ledger.finalized correlationId with
    | true =>
      have known : ∀ group ∈ groupByKey (ledger.eligibleAttempts correlationId),
          (ledger.clusterOf correlationId (some group.1)).isSome := by
        intro group mem
        obtain ⟨⟨row, eligible, same⟩, -⟩ := mem_groupByKey.mp mem
        exact same ▸ (kept.clustered correlationId finalized).2 row eligible
      obtain ⟨rfl, rfl⟩ := finalizeKeys_known known h
      exact .again finalized
    | false =>
      obtain ⟨new, rows, rfl, samplesOf, rfl, keys, requests⟩ := finalizeKeys_fresh
        (groupByKey_keys_nodup _) (fun group _ => clusterOf_none_of_unfinalized finalized _) h
      refine .keys finalized (fun row mem => ?_) someRows ?_ samplesOf keys requests
      · by_contra pending
        exact ended (List.any_eq_true.mpr ⟨row, mem, by simpa using pending⟩)
      · rw [UInt16.toNat_ofNat', Nat.mod_eq_of_lt (by omega)]

end Ledger

end RelayPool.Attempts
