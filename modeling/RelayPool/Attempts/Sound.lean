import RelayPool.Attempts.Runs

/-! What a history of the ledger keeps.

The samples handed out so far are those of the finalized requests, one for each key
(`Sampled`). With the growth of the rows this gives what a history owes (`LedgerSound`),
and `ledgerSound_iff` says which histories pay it: those in which no terminal calls a
pending attempt abandoned that has crossed the boundary. -/
namespace RelayPool.Attempts
open Table Growth Fallible Runs

/-! ### Samples -/

/-- Every key of a finalized request has one sample, and there are no others. -/
structure Sampled (samples : List FinalizedRoutingAttemptSample) (ledger : Ledger) : Prop where
  early : ∀ sample ∈ samples, ledger.finalized sample.correlationId
  once : ∀ correlationId key, ledger.finalized correlationId →
    (∃ row ∈ ledger.eligibleAttempts correlationId, row.stationKey = key) →
    ∃ sample, samples.filter (Ledger.ofKey correlationId key) = [sample] ∧
      ledger.Represents correlationId key sample
  untried : ∀ correlationId key, ledger.finalized correlationId →
    (∀ row ∈ ledger.eligibleAttempts correlationId, row.stationKey ≠ key) →
    samples.filter (Ledger.ofKey correlationId key) = []

namespace Ledger

variable {ledger ledger' : Ledger} {correlationId : String}

theorem Represents.congr {key : String × Int} {sample : FinalizedRoutingAttemptSample}
    (same : ledger'.eligibleAttempts correlationId = ledger.eligibleAttempts correlationId)
    (h : ledger.Represents correlationId key sample) :
    ledger'.Represents correlationId key sample := by
  obtain ⟨highest, expected⟩ := h
  exact ⟨same ▸ highest, same ▸ expected⟩

/-- A sample of a group is one of its key. -/
theorem SampleOfGroup.ofKey_iff (kept : Kept ledger) {count : UInt16} {group : KeyGroup}
    {sample : FinalizedRoutingAttemptSample}
    (mem : group ∈ groupByKey (ledger.eligibleAttempts correlationId))
    (of : SampleOfGroup count group sample) (key : String × Int) :
    ofKey correlationId key sample = true ↔ group.1 = key := by
  obtain ⟨canonical, _, last, isSample⟩ := of
  obtain ⟨eligible, sameKey, -⟩ := highest_of_group kept mem last
  obtain ⟨-, request, ownKey⟩ := sampleOf_ok isSample
  simp only [ofKey, decide_eq_true_eq]
  rw [ownKey, sameKey, request, (mem_eligibleAttempts.mp eligible).2.1]
  exact and_iff_right rfl

theorem SampleOfGroup.represents (kept : Kept ledger) {count : UInt16} {group : KeyGroup}
    {sample : FinalizedRoutingAttemptSample}
    (mem : group ∈ groupByKey (ledger.eligibleAttempts correlationId))
    (of : SampleOfGroup count group sample)
    (counted : count.toNat = (ledger.eligibleAttempts correlationId).length) :
    ledger.Represents correlationId group.1 sample := by
  obtain ⟨canonical, finalizedAtMs, last, isSample⟩ := of
  obtain ⟨eligible, sameKey, highest⟩ := highest_of_group kept mem last
  obtain ⟨isCount, -⟩ := sampleOf_ok isSample
  exact ⟨⟨canonical, eligible, sameKey, highest, finalizedAtMs, isCount.symm ▸ isSample⟩,
    isCount.symm ▸ counted⟩

/-- Samples of groups with different keys: one for each key. -/
theorem filter_samples (correlationId : String) (key : String × Int) {count : UInt16}
    {groups : List KeyGroup} {samples : List FinalizedRoutingAttemptSample}
    (distinct : (groups.map Prod.fst).Nodup)
    (samplesOf : List.Forall₂ (SampleOfGroup count) groups samples)
    (keys : ∀ group ∈ groups, ∀ sample, SampleOfGroup count group sample →
      (ofKey correlationId key sample = true ↔ group.1 = key)) :
    (∃ group ∈ groups, group.1 = key ∧ ∃ sample,
      samples.filter (ofKey correlationId key) = [sample] ∧ SampleOfGroup count group sample) ∨
    (∀ group ∈ groups, group.1 ≠ key) ∧ samples.filter (ofKey correlationId key) = [] := by
  induction samplesOf with
  | nil => exact .inr ⟨nofun, rfl⟩
  | @cons group sample groups samples of rest ih =>
    obtain ⟨fresh, distinct⟩ := List.nodup_cons.mp distinct
    have hit := keys group (List.mem_cons_self ..) sample of
    have ih := ih distinct fun other mem => keys other (.tail _ mem)
    by_cases here : group.1 = key
    · refine .inl ⟨group, List.mem_cons_self .., here, sample, ?_, of⟩
      rw [List.filter_cons_of_pos (hit.mpr here)]
      rcases ih with ⟨other, mem, same, -⟩ | ⟨-, none⟩
      · exact absurd (here.trans same.symm ▸ List.mem_map_of_mem mem) fresh
      · rw [none]
    · rw [List.filter_cons_of_neg (fun same => here (hit.mp same))]
      rcases ih with ⟨other, mem, same, found⟩ | ⟨others, none⟩
      · exact .inl ⟨other, .tail _ mem, same, found⟩
      · refine .inr ⟨fun other mem => ?_, none⟩
        rcases List.mem_cons.mp mem with rfl | later
        · exact here
        · exact others other later

end Ledger

open Ledger

variable {ledger ledger' : Ledger} {samples : List FinalizedRoutingAttemptSample}

/-- Nothing is finalized, and nothing handed out. -/
theorem Sampled.quiet (sampled : Sampled samples ledger) (kept : Kept ledger)
    (evolves : Evolves ledger ledger') (clusters : ledger'.clusters = ledger.clusters) :
    Sampled samples ledger' := by
  have finalized (correlationId) :
      ledger'.finalized correlationId = ledger.finalized correlationId := by
    rw [Ledger.finalized, Ledger.finalized, clusters]
  have same {correlationId} (h : ledger.finalized correlationId) :=
    eligibleAttempts_congr (evolves.attemptsOf_eq kept h)
  refine ⟨fun sample mem => (finalized _).trans (sampled.early sample mem), ?_, ?_⟩
  · intro correlationId key isFinalized tried
    rw [finalized] at isFinalized
    rw [same isFinalized] at tried
    obtain ⟨sample, one, represents⟩ := sampled.once correlationId key isFinalized tried
    exact ⟨sample, one, represents.congr (same isFinalized)⟩
  · intro correlationId key isFinalized untried
    rw [finalized] at isFinalized
    rw [same isFinalized] at untried
    exact sampled.untried correlationId key isFinalized untried

theorem exists_of_mem_right {α β : Type*} {R : α → β → Prop} {as : List α} {bs : List β}
    (h : List.Forall₂ R as bs) {b : β} (mem : b ∈ bs) : ∃ a ∈ as, R a b := by
  induction h with
  | nil => exact nomatch mem
  | @cons a _ _ _ related _ ih =>
    rcases List.mem_cons.mp mem with rfl | later
    · exact ⟨a, List.mem_cons_self .., related⟩
    · exact (ih later).imp fun a' ⟨mem', related'⟩ => ⟨.tail _ mem', related'⟩

theorem filter_ofKey_eq_nil {correlationId other : String} {key : String × Int}
    (different : other ≠ correlationId) (h : ∀ sample ∈ samples, sample.correlationId = other) :
    samples.filter (ofKey correlationId key) = [] := by
  refine List.filter_eq_nil_iff.mpr fun sample mem => ?_
  simp [ofKey, h sample mem, different]

/-- One request is finalized, and its samples handed out. -/
theorem Sampled.add (sampled : Sampled samples ledger) {correlationId : String}
    {new : List FinalizedRoutingAttemptSample} {rows : List ClusterRow}
    (unfinalized : ledger.finalized correlationId = false)
    (requests : ∀ row ∈ rows, row.correlationId = correlationId) (some_ : rows ≠ [])
    (newRequests : ∀ sample ∈ new, sample.correlationId = correlationId)
    (once : ∀ key, (∃ row ∈ ledger.eligibleAttempts correlationId, row.stationKey = key) →
      ∃ sample, new.filter (ofKey correlationId key) = [sample] ∧
        ledger.Represents correlationId key sample)
    (untried : ∀ key, (∀ row ∈ ledger.eligibleAttempts correlationId, row.stationKey ≠ key) →
      new.filter (ofKey correlationId key) = []) :
    Sampled (samples ++ new) { ledger with clusters := ledger.clusters ++ rows } := by
  have evolves := evolves_addClusters unfinalized requests
  have nowFinalized :
      finalized { ledger with clusters := ledger.clusters ++ rows } correlationId := by
    obtain ⟨row, mem⟩ := List.exists_mem_of_ne_nil rows some_
    exact finalized_iff.mpr ⟨row, List.mem_append_right _ mem, requests row mem⟩
  have older {other} (different : other ≠ correlationId)
      (h : finalized { ledger with clusters := ledger.clusters ++ rows } other) :
      ledger.finalized other := by
    obtain ⟨row, mem, same⟩ := finalized_iff.mp h
    rcases List.mem_append.mp mem with old | new
    · exact finalized_iff.mpr ⟨row, old, same⟩
    · exact absurd (same.symm.trans (requests row new)) different
  have sameRows (other) : eligibleAttempts { ledger with clusters := ledger.clusters ++ rows } other =
    ledger.eligibleAttempts other := rfl
  have none (key) : samples.filter (ofKey correlationId key) = [] := by
    refine List.filter_eq_nil_iff.mpr fun sample mem h => Bool.eq_false_iff.mp unfinalized ?_
    simp only [ofKey, decide_eq_true_eq] at h
    exact h.1 ▸ sampled.early sample mem
  refine ⟨fun sample mem => ?_, fun other key isFinalized tried => ?_,
    fun other key isFinalized notTried => ?_⟩
  · rcases List.mem_append.mp mem with old | new'
    · exact evolves.finalized (sampled.early sample old)
    · exact newRequests sample new' ▸ nowFinalized
  · rw [List.filter_append]
    by_cases same : other = correlationId
    · subst same
      obtain ⟨sample, one, represents⟩ := once key tried
      exact ⟨sample, by rw [none, one, List.nil_append], represents.congr (sameRows _)⟩
    · obtain ⟨sample, one, represents⟩ := sampled.once other key (older same isFinalized) tried
      refine ⟨sample, ?_, represents.congr (sameRows _)⟩
      rw [one, filter_ofKey_eq_nil (Ne.symm same) newRequests, List.append_nil]
  · rw [List.filter_append]
    by_cases same : other = correlationId
    · subst same
      rw [none, untried key notTried, List.nil_append]
    · rw [sampled.untried other key (older same isFinalized) notTried,
        filter_ofKey_eq_nil (Ne.symm same) newRequests, List.append_nil]

theorem Sampled.clustered (sampled : Sampled samples ledger) (kept : Kept ledger)
    {correlationId : String} {new : List FinalizedRoutingAttemptSample}
    (clustered : Clustered ledger correlationId new ledger') :
    Sampled (samples ++ new) ledger' := by
  cases clustered with
  | again _ => rwa [List.append_nil]
  | @empty row unfinalized noRows request _ =>
    refine sampled.add unfinalized (fun row' mem => List.mem_singleton.mp mem ▸ request)
      (List.cons_ne_nil _ _) (fun _ mem => absurd mem List.not_mem_nil) (fun key tried => ?_)
      fun _ _ => rfl
    obtain ⟨row', mem, -⟩ := tried
    exact absurd mem (by simp [noRows])
  | @keys _ rows count unfinalized _ someRows counted samplesOf keys requests =>
    have distinct := groupByKey_keys_nodup (ledger.eligibleAttempts correlationId)
    have ownKey : ∀ key, ∀ group ∈ groupByKey (ledger.eligibleAttempts correlationId), ∀ sample,
        SampleOfGroup count group sample →
          (ofKey correlationId key sample = true ↔ group.1 = key) :=
      fun key group mem sample of => SampleOfGroup.ofKey_iff kept mem of key
    refine sampled.add unfinalized requests ?_ ?_ (fun key tried => ?_) fun key untried => ?_
    · rintro rfl
      obtain ⟨row, mem⟩ := List.exists_mem_of_ne_nil _ someRows
      obtain ⟨group, memGroup, -⟩ := exists_group mem
      have none := List.map_eq_nil_iff.mp keys.symm
      exact absurd memGroup (none ▸ List.not_mem_nil)
    · intro sample mem
      obtain ⟨group, memGroup, canonical, _, last, isSample⟩ := exists_of_mem_right samplesOf mem
      obtain ⟨eligible, -⟩ := highest_of_group kept memGroup last
      exact (sampleOf_ok isSample).2.1.trans (mem_eligibleAttempts.mp eligible).2.1
    · rcases filter_samples correlationId key distinct samplesOf (ownKey key) with
        ⟨group, mem, rfl, sample, one, of⟩ | ⟨others, -⟩
      · exact ⟨sample, one, SampleOfGroup.represents kept mem of counted⟩
      · obtain ⟨row, mem, same⟩ := tried
        obtain ⟨group, memGroup, isKey⟩ := exists_group mem
        exact absurd (isKey.trans same) (others group memGroup)
    · rcases filter_samples correlationId key distinct samplesOf (ownKey key) with
        ⟨group, mem, rfl, -⟩ | ⟨-, none⟩
      · obtain ⟨row, mem', same⟩ := (mem_groupByKey.mp mem).1
        exact absurd same (untried row mem')
      · exact none

/-! ### Histories -/

/-- What every history keeps. -/
structure History.Inv (history : History) : Prop where
  kept : Ledger.Kept history.ledger
  legacy : Ledger.LegacyEnded history.ledger
  sampled : Sampled history.samples history.ledger

theorem inv_initial : History.Inv .initial where
  kept := kept_initial
  legacy _ mem := absurd mem List.not_mem_nil
  sampled :=
    ⟨fun _ mem => absurd mem List.not_mem_nil,
      fun _ _ finalized => Bool.noConfusion (show false = true from finalized),
      fun _ _ finalized => Bool.noConfusion (show false = true from finalized)⟩

/-- One step, on a history that has kept its invariant. -/
theorem History.step_sound {history : History} (inv : history.Inv) (operation : Operation) :
    (history.step operation).Inv ∧ Evolves history.ledger (history.step operation).ledger := by
  unfold History.step
  split
  · rename_i new ledger' performed
    obtain ⟨kept, legacy, performed⟩ := perform_sound inv.kept inv.legacy performed
    refine ⟨⟨kept, legacy, ?_⟩, performed.evolves inv.kept inv.legacy⟩
    cases performed with
    | quiet evolves clusters =>
      rw [List.append_nil]
      exact inv.sampled.quiet inv.kept evolves clusters
    | clustered clustered => exact inv.sampled.clustered inv.kept clustered
  · exact ⟨inv, .refl _⟩

theorem History.run_sound {history : History} (inv : history.Inv) (operations : List Operation) :
    (run step history operations).Inv ∧
      Evolves history.ledger (run step history operations).ledger := by
  induction operations generalizing history with
  | nil => exact ⟨inv, .refl _⟩
  | cons operation rest ih =>
    obtain ⟨next, evolves⟩ := step_sound inv operation
    obtain ⟨last, evolves'⟩ := ih next
    exact ⟨last, evolves.trans evolves'⟩

/-- A terminal of this operation that comes to a pending attempt is stored. -/
def Operation.Stored (ledger : Ledger) : Operation → Prop
  | .terminalize terminal => ledger.Stores terminal
  | .finishAttempt record v3Active => ∀ ledger',
    ledger.ensurePreCutoverRoutingAttemptSlot record v3Active = .ok ledger' →
    ledger'.Stores record.routingTerminal
  | _ => True

/-- No pending attempt that has crossed the boundary is called abandoned, and the fields of
the terminal are within the bounds of their columns. -/
def Operation.Expected (ledger : Ledger) : Operation → Prop
  | .terminalize terminal => ledger.Expects terminal
  | .finishAttempt record v3Active => ∀ ledger',
    ledger.ensurePreCutoverRoutingAttemptSlot record v3Active = .ok ledger' →
    ledger'.Expects record.routingTerminal
  | _ => True

theorem Operation.stored_iff (kept : Kept ledger) (operation : Operation) :
    operation.Stored ledger ↔ operation.Expected ledger := by
  cases operation with
  | terminalize terminal => exact stores_iff kept
  | finishAttempt record v3Active =>
    exact forall₂_congr fun ledger' slotted => stores_iff (ensureSlot_cases kept slotted).1
  | _ => exact Iff.rfl

/-- What the ledger owes to a history of operations. -/
structure LedgerSound (operations : List Operation) : Prop where
  /-- An attempt stays admitted as it was, its terminal stays and so does its row with it,
  and its boundary stays crossed. -/
  terminals : ∀ before rest, operations = before ++ rest → ∀ attemptId row,
    (History.after before).ledger.attempt attemptId = some row →
    ∃ row', (History.after operations).ledger.attempt attemptId = some row' ∧ row.Before row'
  /-- No row of a finalized request is added or changed. -/
  frozen : ∀ before rest, operations = before ++ rest → ∀ correlationId,
    (History.after before).ledger.finalized correlationId →
    (History.after operations).ledger.attemptsOf correlationId =
        (History.after before).ledger.attemptsOf correlationId ∧
      (History.after operations).ledger.clustersOf correlationId =
        (History.after before).ledger.clustersOf correlationId
  sampled : Sampled (History.after operations).samples (History.after operations).ledger
  stored : Along History.step (fun history operation => operation.Stored history.ledger)
    .initial operations

/-- Whatever the interleaving, the ledger is sound if and only if every terminal that comes to
a pending attempt fits the columns and the boundary. -/
theorem ledgerSound_iff (operations : List Operation) :
    LedgerSound operations ↔
      Along History.step (fun history operation => operation.Expected history.ledger)
        .initial operations := by
  have stored_iff : Along History.step (fun history operation => operation.Stored history.ledger)
        .initial operations ↔
      Along History.step (fun history operation => operation.Expected history.ledger)
        .initial operations :=
    @along_iff _ _ History.step History.Inv (fun _ => True) _ _
      (fun _ operation _ inv => Operation.stored_iff inv.kept operation)
      (fun _ operation _ inv _ => (History.step_sound inv operation).1) _ operations inv_initial
      fun _ _ => trivial
  refine ⟨fun sound => stored_iff.mp sound.stored, fun expected => ?_⟩
  have evolves {before rest} (split : operations = before ++ rest) :
      (History.after before).Inv ∧
        Evolves (History.after before).ledger (History.after operations).ledger := by
    have inv := (History.run_sound inv_initial before).1
    refine ⟨inv, ?_⟩
    rw [split]
    unfold History.after
    rw [run_append]
    exact (History.run_sound inv rest).2
  exact {
    terminals := fun before rest split attemptId row found => (evolves split).2.attempt found
    frozen := fun before rest split correlationId finalized =>
      have ⟨inv, evolves⟩ := evolves split
      ⟨evolves.attemptsOf_eq inv.kept finalized, evolves.clustersOf_eq finalized⟩
    sampled := (History.run_sound inv_initial operations).1.sampled
    stored := stored_iff.mpr expected }

/-- Of every interleaving, and of every terminal that the canonical form gives to an attempt. -/
theorem routing_attempt_ledger (operations : List Operation) :
    (LedgerSound operations ↔
      Along History.step (fun history operation => operation.Expected history.ledger)
        .initial operations) ∧
    ∀ row : AttemptRow, row.Checks → ∀ terminal canonical,
      canonicalTerminal terminal row.boundaryCrossed = .ok canonical → ∀ sequence,
      ((∃ columns, terminalColumns terminal canonical = .ok columns ∧
        (row.terminalized columns sequence).Checks) ↔ terminal.Storable row.boundaryCrossed) :=
  ⟨ledgerSound_iff operations, fun _ checks _ _ isCanonical => checks_terminalized_iff checks isCanonical⟩

def sampleAdmission : RoutingAttemptAdmission where
  attemptId := "r:0"
  correlationId := "r"
  stationKeyId := "k"
  stationKeyLifecycleRevision := 1
  attemptIndex := 0
  capacityLeaseId := "c"
  halfOpenLeaseId := none
  leaseRevision := none
  deadlineAtMs := 9
  admittedAtMs := 1
  generationEligibility := .active

/-- The execution timed out and has not seen that its boundary was committed. -/
def sampleAbandoned : RoutingAttemptTerminal where
  attemptId := "r:0"
  comparabilityKey := none
  failureCode := some "local_attempt_failed_before_outbound"
  failureBlame := none
  terminalKind := "abandoned"
  retryDisposition := "stop_request"
  eventAtMs := 5
  observedAtMs := 5
  ingestedAtMs := 5
  latencyMs := 4

def sampleCrossed : Ledger :=
  (History.after [.admitAttempt sampleAdmission "active", .markBoundaryCrossed "r:0" "k" 1 2]).ledger

/-- The boundary wins against the timeout, and the terminal is rejected for ever. -/
theorem abandoned_across_boundary :
    ¬ LedgerSound [.admitAttempt sampleAdmission "active", .markBoundaryCrossed "r:0" "k" 1 2,
      .terminalize sampleAbandoned] := by
  intro sound
  have stores : sampleCrossed.Stores sampleAbandoned := sound.stored.2.2.1
  obtain ⟨row, found, pending, unfinalized, canonical⟩ :
      ∃ row ∈ sampleCrossed.attempt "r:0", row.pending = true ∧
        sampleCrossed.finalized row.correlationId = false ∧
        canonicalTerminal sampleAbandoned row.boundaryCrossed =
          .ok ⟨.localAbandoned, .excluded, .local, .relay⟩ := by decide +kernel
  obtain ⟨ledger', stored⟩ := stores row _ found pending unfinalized canonical
  have rejected : sampleCrossed.terminalize sampleAbandoned = .error .databaseFailed := by
    decide +kernel
  exact absurd (stored.symm.trans rejected) nofun

end RelayPool.Attempts
