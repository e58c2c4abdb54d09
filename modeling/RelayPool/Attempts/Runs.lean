import RelayPool.Attempts.Clusters
import RelayPool.Runs

/-! Histories of the attempt ledger.

An interleaving is a list of operations, each in a transaction of its own; one that fails
changes nothing. An attempt keeps its terminal, a finalized request keeps its rows, and
over all finalizations each key of a request gets one sample, in every history. A
terminal is stored unless it calls an attempt abandoned that has crossed the boundary:
the constraints of the table reject that one (`checks_terminalized_iff`), however often it
comes, and the attempt stays pending (`ledgerSound_iff`). -/
namespace RelayPool.Attempts
open Circuit (PersistenceError toColumn toColumn_ok)
open Table Growth Fallible Runs

/-! ### Operations -/

/-- An admission is labelled by what the generation fence answers in its transaction. -/
inductive Operation
  | admitAttempt (admission : RoutingAttemptAdmission) (fence : String)
  | markBoundaryCrossed (attemptId stationKeyId : String)
    (lifecycleRevision crossedAtMs : UInt64)
  | terminalize (terminal : RoutingAttemptTerminal)
  | finishAttempt (record : AttemptTerminalWrite) (v3Active : Bool)
  | recoverStartupInterrupted (correlationId : String) (recoveredAtMs : Int)
  | finalizeRequestClusters (correlationId : String) (finalizedAtMs : Int) (fence : String)
deriving DecidableEq, Repr

/-- The samples handed out, and the tables. -/
def Ledger.perform (ledger : Ledger) :
    Operation → Except PersistenceError (List FinalizedRoutingAttemptSample × Ledger)
  | .admitAttempt admission fence => do
    let (_, ledger) ← ledger.admitAttempt { admission with
      generationEligibility := resolveGenerationEligibility fence }
    return ([], ledger)
  | .markBoundaryCrossed attemptId stationKeyId lifecycleRevision crossedAtMs => do
    let (_, ledger) ← ledger.markBoundaryCrossed attemptId stationKeyId lifecycleRevision
      crossedAtMs
    return ([], ledger)
  | .terminalize terminal => do
    let (_, ledger) ← ledger.terminalize terminal
    return ([], ledger)
  | .finishAttempt record v3Active => do
    let (_, ledger) ← ledger.finishAttempt record v3Active
    return ([], ledger)
  | .recoverStartupInterrupted correlationId recoveredAtMs => do
    let (_, ledger) ← ledger.recoverStartupInterrupted correlationId recoveredAtMs
    return ([], ledger)
  | .finalizeRequestClusters correlationId finalizedAtMs fence =>
    ledger.finalizeRequestClusters correlationId finalizedAtMs fence

/-- The tables, and all samples that were handed out. -/
structure History where
  samples : List FinalizedRoutingAttemptSample
  ledger : Ledger
deriving DecidableEq

namespace History

def initial : History := ⟨[], .initial⟩

def step (history : History) (operation : Operation) : History :=
  match history.ledger.perform operation with
  | .ok (samples, ledger) => ⟨history.samples ++ samples, ledger⟩
  | .error _ => history

def after (operations : List Operation) : History := run step initial operations

end History

/-! ### The terminal of an attempt -/

/-- The record's own fields are within the bounds of their columns. -/
structure RoutingAttemptTerminal.Fits (terminal : RoutingAttemptTerminal) : Prop where
  failureCode : ∀ code ∈ terminal.failureCode, Within 1 96 code
  comparabilityKey : ∀ key ∈ terminal.comparabilityKey, Within 1 192 key
  retryDisposition :
    terminal.retryDisposition ∈ ["end", "retryable_before_commit", "stop_request"]
  numbers : ∀ number ∈ [terminal.eventAtMs, terminal.observedAtMs, terminal.ingestedAtMs,
    terminal.latencyMs], number < 9223372036854775808

/-- An attempt that crossed the boundary is not abandoned. -/
def RoutingAttemptTerminal.Storable (terminal : RoutingAttemptTerminal)
    (boundaryCrossed : Bool) : Prop :=
  terminal.Fits ∧ ¬ (terminal.terminalKind = "abandoned" ∧ boundaryCrossed = true)

theorem terminalColumns_ok {terminal : RoutingAttemptTerminal} {canonical : CanonicalTerminal}
    {columns : TerminalColumns} : terminalColumns terminal canonical = .ok columns ↔
      (∀ number ∈ [terminal.eventAtMs, terminal.observedAtMs, terminal.ingestedAtMs,
        terminal.latencyMs], number < 9223372036854775808) ∧
      columns = {
        terminalState := canonical.terminalState
        outcome := canonical.outcome
        failureCode := terminal.failureCode
        failureAttribution := canonical.failureAttribution
        responseOrigin := canonical.responseOrigin
        eventTimeStatus := .valid
        latencyMs := terminal.latencyMs.toNat
        eventAtMs := some terminal.eventAtMs.toNat
        observedAtMs := terminal.observedAtMs.toNat
        ingestedAtMs := terminal.ingestedAtMs.toNat
        comparabilityKey := terminal.comparabilityKey
        recoveryOrigin := .normal
        retryDisposition := terminal.retryDisposition
        terminalAtMs := terminal.eventAtMs.toNat
        releasedAtMs := terminal.ingestedAtMs.toNat } := by
  unfold terminalColumns
  simp only [bind_ok, pure_ok, toColumn_ok, List.forall_mem_cons, List.not_mem_nil,
    false_implies, implies_true, and_true]
  constructor
  · rintro ⟨_, ⟨event, rfl⟩, _, ⟨observed, rfl⟩, _, ⟨ingested, rfl⟩, _, ⟨latency, rfl⟩, rfl⟩
    exact ⟨⟨event, observed, ingested, latency⟩, rfl⟩
  · rintro ⟨⟨event, observed, ingested, latency⟩, rfl⟩
    exact ⟨_, ⟨event, rfl⟩, _, ⟨observed, rfl⟩, _, ⟨ingested, rfl⟩, _, ⟨latency, rfl⟩, rfl⟩

/-- How the canonical columns go together with the boundary, case by case. -/
theorem canonicalTerminal_coherent {terminal : RoutingAttemptTerminal} {boundaryCrossed : Bool}
    {canonical : CanonicalTerminal}
    (h : canonicalTerminal terminal boundaryCrossed = .ok canonical) {columns : TerminalColumns}
    (states : columns.terminalState = canonical.terminalState)
    (outcomes : columns.outcome = canonical.outcome)
    (attributions : columns.failureAttribution = canonical.failureAttribution)
    (origins : columns.responseOrigin = canonical.responseOrigin) :
    columns.Coherent boundaryCrossed ↔
      ¬ (terminal.terminalKind = "abandoned" ∧ boundaryCrossed = true) := by
  unfold canonicalTerminal at h
  unfold TerminalColumns.Coherent
  rw [states, outcomes, attributions, origins]
  split at h
  · rename_i succeeded
    split at h
    · rename_i crossed
      obtain rfl := Except.ok.inj h
      simp [succeeded, crossed]
    · cases h
  · split at h
    · rename_i local_
      obtain rfl := Except.ok.inj h
      rcases local_ with abandoned | uncrossed
      · simp [abandoned]
      · simp [uncrossed]
    · rename_i remote
      obtain ⟨notAbandoned, crossed⟩ := not_or.mp remote
      have crossed : boundaryCrossed = true := by simpa using crossed
      split at h
      · obtain rfl := Except.ok.inj h
        simp [notAbandoned]
      · split at h
        · obtain rfl := Except.ok.inj h
          simp [notAbandoned]
        · obtain rfl := Except.ok.inj h
          simp [notAbandoned, crossed]

/-- The constraints accept the terminal of a pending attempt if and only if its record fits
and does not call an attempt abandoned that has crossed the boundary. -/
theorem checks_terminalized_iff {row : AttemptRow} (checks : row.Checks)
    {terminal : RoutingAttemptTerminal} {canonical : CanonicalTerminal}
    (h : canonicalTerminal terminal row.boundaryCrossed = .ok canonical) (sequence : Int) :
    (∃ columns, terminalColumns terminal canonical = .ok columns ∧
      (row.terminalized columns sequence).Checks) ↔ terminal.Storable row.boundaryCrossed := by
  constructor
  · rintro ⟨columns, isColumns, after⟩
    obtain ⟨numbers, rfl⟩ := terminalColumns_ok.mp isColumns
    obtain ⟨inRange, coherent⟩ := after.terminal _ rfl
    exact ⟨⟨inRange.1, inRange.2.1, inRange.2.2.1, numbers⟩,
      (canonicalTerminal_coherent h rfl rfl rfl rfl).mp coherent⟩
  · rintro ⟨fits, possible⟩
    refine ⟨_, terminalColumns_ok.mpr ⟨fits.numbers, rfl⟩, checks.admission, checks.boundary,
      fun columns isColumns => ?_, le_max_of_le_left checks.updated⟩
    obtain rfl := Option.some.inj isColumns
    refine ⟨⟨fits.failureCode, fits.comparabilityKey, fits.retryDisposition, ?_⟩,
      (canonicalTerminal_coherent h rfl rfl rfl rfl).mpr possible⟩
    simp

namespace Ledger

variable {ledger ledger' : Ledger}

/-- A terminal that comes to a pending attempt is stored. -/
def Stores (ledger : Ledger) (terminal : RoutingAttemptTerminal) : Prop :=
  ∀ current canonical, ledger.attempt terminal.attemptId = some current →
    current.pending = true → ledger.finalized current.correlationId = false →
    canonicalTerminal terminal current.boundaryCrossed = .ok canonical →
    ∃ ledger', ledger.terminalize terminal = .ok (⟨true, current.boundaryCrossed, false⟩, ledger')

/-- The terminal does not come to a pending attempt whose boundary contradicts it. -/
def Expects (ledger : Ledger) (terminal : RoutingAttemptTerminal) : Prop :=
  ∀ current canonical, ledger.attempt terminal.attemptId = some current →
    current.pending = true → ledger.finalized current.correlationId = false →
    canonicalTerminal terminal current.boundaryCrossed = .ok canonical →
    terminal.Storable current.boundaryCrossed

theorem stores_iff (kept : Kept ledger) {terminal : RoutingAttemptTerminal} :
    ledger.Stores terminal ↔ ledger.Expects terminal := by
  refine forall₂_congr fun current canonical =>
    forall₄_congr fun found pending unfinalized isCanonical => ?_
  have checks := kept.checks current (lookup_some found).1
  rw [← checks_terminalized_iff checks isCanonical ledger.nextSequence]
  have noTerminal : current.terminal = none := Option.isNone_iff_eq_none.mp pending
  have audited : ledger.auditLateTerminalIfFinalized current terminal = .ok (false, ledger) := by
    rw [auditLateTerminalIfFinalized, unfinalized]
    rfl
  unfold terminalize
  simp only [found, isCanonical, audited, noTerminal, bind_ok]
  constructor
  · rintro ⟨ledger', _, ⟨⟩, _, ⟨⟩, h⟩
    simp only [Bool.false_eq_true, if_false, bind_ok] at h
    obtain ⟨columns, isColumns, next, written, -⟩ := h
    exact ⟨columns, isColumns, (write_ok.mp written).1⟩
  · rintro ⟨columns, isColumns, accepted⟩
    have written := (@write_ok ledger _ _).mpr ⟨accepted, rfl⟩
    exact ⟨_, canonical, rfl, _, rfl,
      bind_ok.mpr ⟨columns, isColumns, bind_ok.mpr ⟨_, written, rfl⟩⟩⟩

/-! ### Legacy attempts -/

/-- A legacy attempt got its terminal in the transaction that admitted it. -/
def LegacyEnded (ledger : Ledger) : Prop :=
  ∀ row ∈ ledger.attempts, row.generationEligibility = .legacy → row.pending = false

theorem LegacyEnded.rewrites (ended : LegacyEnded ledger) (rewrites : Rewrites ledger ledger') :
    LegacyEnded ledger' := by
  intro row' mem legacy
  obtain ⟨row, mem, before⟩ := rewrites.mem mem
  have ended := ended row mem (before.eligibility ▸ legacy)
  rw [before.fixed ended]
  exact ended

theorem LegacyEnded.admitAttempt (ended : LegacyEnded ledger) {admission : RoutingAttemptAdmission}
    (admitted : Admitted ledger admission ledger')
    (resolved : admission.generationEligibility ≠ .legacy) : LegacyEnded ledger' := by
  cases admitted with
  | late _ attempts _ =>
    intro row mem
    exact ended row (attempts ▸ mem)
  | again => exact ended
  | inserted _ isRow _ _ _ =>
    intro row mem legacy
    rcases List.mem_append.mp mem with old | new
    · exact ended row old legacy
    · obtain rfl := List.mem_singleton.mp new
      obtain ⟨-, -, eligibility, -⟩ := admittedRow_ok isRow
      exact absurd (eligibility.symm.trans legacy) resolved

/-- An attempt of a request that is not finalized has a terminal after `terminalize`. -/
theorem terminalize_ends {terminal : RoutingAttemptTerminal}
    {result : RoutingAttemptTerminalResult}
    (h : ledger.terminalize terminal = .ok (result, ledger'))
    (unfinalized : ∀ row, ledger.attempt terminal.attemptId = some row →
      ledger.finalized row.correlationId = false) :
    ∃ row, ledger'.attempt terminal.attemptId = some row ∧ row.pending = false := by
  obtain ⟨current, found, ended⟩ := terminalize_cases h
  have open_ := unfinalized current found
  cases ended with
  | late finalized _ _ => exact absurd (finalized.symm.trans open_) nofun
  | again _ stored =>
    refine ⟨current, found, ?_⟩
    rw [AttemptRow.pending, stored]
    rfl
  | @stored _ columns _ _ _ _ _ written =>
    have id : (current.terminalized columns ledger.nextSequence).attemptId = terminal.attemptId :=
      (lookup_some found).2
    exact ⟨_, id ▸ attempt_written written (id.symm ▸ found), rfl⟩

/-- How a terminal finds its slot. -/
inductive Slotted (ledger : Ledger) (record : AttemptTerminalWrite) : Ledger → Prop
  | present : (ledger.attempt record.attemptId).isSome → Slotted ledger record ledger
  | late {next ledger' : Ledger} : next.attempts = ledger.attempts →
    ledger.attempt record.attemptId = none → Rewrites next ledger' →
    Slotted ledger record ledger'
  | admitted {row : AttemptRow} {next ledger' : Ledger} :
    ledger.finalized record.requestId = false → row.attemptId = record.attemptId →
    row.correlationId = record.requestId → ledger.attempt record.attemptId = none →
    next.attempts = ledger.attempts ++ [row] → next.clusters = ledger.clusters →
    Rewrites next ledger' → Slotted ledger record ledger'

theorem ensureSlot_cases (kept : Kept ledger) {record : AttemptTerminalWrite} {v3Active : Bool}
    (h : ledger.ensurePreCutoverRoutingAttemptSlot record v3Active = .ok ledger') :
    Kept ledger' ∧ Evolves ledger ledger' ∧ ledger'.clusters = ledger.clusters ∧
      Slotted ledger record ledger' := by
  unfold ensurePreCutoverRoutingAttemptSlot at h
  rcases ite_ok.mp h with ⟨present, h⟩ | ⟨absent, h⟩
  · obtain rfl := pure_ok.mp h
    exact ⟨kept, .refl _, rfl, .present present⟩
  rw [guard_ok] at h
  obtain ⟨-, h⟩ := h
  simp only [bind_ok, Prod.exists] at h
  obtain ⟨result, next, isAdmitted, h⟩ := h
  have absent : ledger.attempt record.attemptId = none := by simpa using absent
  have admitted := admit_cases isAdmitted
  have keptNext := admitted.kept kept
  -- the boundary is marked on the row that was just admitted, or not at all
  obtain ⟨keptLast, rewrites⟩ : Kept ledger' ∧ Rewrites next ledger' := by
    rcases ite_ok.mp h with ⟨-, h⟩ | ⟨-, h⟩
    · simp only [bind_ok, pure_ok, Prod.exists] at h
      obtain ⟨_, _, marked, rfl⟩ := h
      exact keptNext.markBoundaryCrossed marked
    · obtain rfl := pure_ok.mp h
      exact ⟨keptNext, .refl _⟩
  refine ⟨keptLast, admitted.evolves.trans rewrites.evolves,
    rewrites.clusters.trans admitted.clusters_eq, ?_⟩
  cases admitted with
  | late _ attempts _ => exact .late attempts absent rewrites
  | again present => exact absurd present (by simp [AttemptTerminalWrite.preCutoverAdmission, absent])
  | inserted unfinalized isRow _ _ _ =>
    obtain ⟨attemptId, correlationId, -⟩ := admittedRow_ok isRow
    refine .admitted unfinalized attemptId correlationId absent ?_ ?_ rewrites
    · rfl
    · rfl

theorem attempt_none_of_rewrites {attemptId : String} (rewrites : Rewrites ledger ledger')
    (absent : ledger.attempt attemptId = none) : ledger'.attempt attemptId = none := by
  refine lookup_none.mpr fun row' mem same => ?_
  obtain ⟨row, mem, before⟩ := rewrites.mem mem
  exact lookup_none.mp absent row mem (before.attemptId.symm.trans same)

theorem finishAttempt_sound (kept : Kept ledger) (legacy : LegacyEnded ledger)
    {record : AttemptTerminalWrite} {v3Active : Bool} {result : RoutingAttemptTerminalResult}
    (h : ledger.finishAttempt record v3Active = .ok (result, ledger')) :
    Kept ledger' ∧ LegacyEnded ledger' ∧ Evolves ledger ledger' ∧
      ledger'.clusters = ledger.clusters := by
  unfold Ledger.finishAttempt at h
  rw [bind_ok] at h
  obtain ⟨next, slotted, h⟩ := h
  obtain ⟨keptNext, evolves, sameClusters, slotted⟩ := ensureSlot_cases kept slotted
  obtain ⟨keptLast, rewrites⟩ := keptNext.terminalize h
  refine ⟨keptLast, ?_, evolves.trans rewrites.evolves, rewrites.clusters.trans sameClusters⟩
  cases slotted with
  | present _ => exact legacy.rewrites rewrites
  | late sameRows absent rewritten =>
    obtain ⟨current, found, -⟩ := terminalize_cases h
    have absent : next.attempt record.attemptId = none :=
      attempt_none_of_rewrites rewritten ((congrArg (lookup _ · _) sameRows).trans absent)
    exact absurd (found.symm.trans absent) nofun
  | @admitted row admitted _ unfinalized attemptId correlationId absent attempts clusters rewritten =>
    intro row' mem isLegacy
    have whole := rewritten.trans rewrites
    obtain ⟨row₀, mem₀, before⟩ := whole.mem mem
    rw [attempts] at mem₀
    rcases List.mem_append.mp mem₀ with old | new
    · -- a row that was there before
      have ended := legacy row₀ old (before.eligibility ▸ isLegacy)
      rw [before.fixed ended]
      exact ended
    · -- the row that was admitted in this transaction
      obtain rfl := List.mem_singleton.mp new
      obtain ⟨row'', found, ended⟩ := terminalize_ends h fun current found => by
        obtain ⟨current₀, mem₁, before'⟩ := rewritten.mem (lookup_some found).1
        have same : current₀ = row₀ := by
          rw [attempts] at mem₁
          refine (List.mem_append.mp mem₁).elim (fun old => ?_) List.mem_singleton.mp
          refine absurd ?_ (lookup_none.mp absent current₀ old)
          exact before'.attemptId.symm.trans (lookup_some found).2
        rw [rewritten.finalized, Ledger.finalized, clusters, before'.correlationId, same,
          correlationId]
        exact unfinalized
      have same : row'' = row' := keptLast.keyed.inj (lookup_some found).1 mem
        ((lookup_some found).2.trans (before.attemptId.trans attemptId).symm)
      exact same ▸ ended

/-! ### One operation -/

/-- New clusters of one request, for all its keys, when none of its attempts is pending. -/
theorem Kept.addClusters (kept : Kept ledger) {correlationId : String} {rows : List ClusterRow}
    (unfinalized : ledger.finalized correlationId = false)
    (requests : ∀ row ∈ rows, row.correlationId = correlationId)
    (ended : ∀ row ∈ ledger.attempts, row.correlationId = correlationId → row.pending = false)
    (empty : ledger.eligibleAttempts correlationId = [] → ∃ row ∈ rows, row.stationKey = none)
    (keys : ∀ row ∈ ledger.eligibleAttempts correlationId,
      ∃ cluster ∈ rows, cluster.stationKey = some row.stationKey) :
    Kept { ledger with clusters := ledger.clusters ++ rows } where
  keyed := kept.keyed
  checks := kept.checks
  slots := kept.slots
  ended row mem finalized := by
    obtain ⟨cluster, memCluster, same⟩ := finalized_iff.mp finalized
    rcases List.mem_append.mp memCluster with old | new
    · exact kept.ended row mem (finalized_iff.mpr ⟨cluster, old, same⟩)
    · exact ended row mem (same.symm.trans (requests cluster new))
  clustered other finalized := by
    simp only [clusterOf_isSome]
    by_cases same : other = correlationId
    · subst same
      refine ⟨fun none => ?_, fun row eligible => ?_⟩
      · obtain ⟨cluster, mem, noKey⟩ := empty none
        exact ⟨cluster, List.mem_append_right _ mem, requests cluster mem, noKey⟩
      · obtain ⟨cluster, mem, key⟩ := keys row eligible
        exact ⟨cluster, List.mem_append_right _ mem, requests cluster mem, key⟩
    · obtain ⟨cluster, memCluster, sameRequest⟩ := finalized_iff.mp finalized
      have before : ledger.finalized other := by
        rcases List.mem_append.mp memCluster with old | new
        · exact finalized_iff.mpr ⟨cluster, old, sameRequest⟩
        · exact absurd (sameRequest.symm.trans (requests cluster new)) same
      obtain ⟨none, some_⟩ := kept.clustered other before
      simp only [clusterOf_isSome] at none some_
      refine ⟨fun noRows => ?_, fun row eligible => ?_⟩
      · obtain ⟨cluster, mem, of⟩ := none noRows
        exact ⟨cluster, List.mem_append_left _ mem, of⟩
      · obtain ⟨cluster, mem, of⟩ := some_ row eligible
        exact ⟨cluster, List.mem_append_left _ mem, of⟩

theorem evolves_addClusters {correlationId : String} {rows : List ClusterRow}
    (unfinalized : ledger.finalized correlationId = false)
    (requests : ∀ row ∈ rows, row.correlationId = correlationId) :
    Evolves ledger { ledger with clusters := ledger.clusters ++ rows } :=
  ⟨.refl .refl _, .append (fun _ => rfl) fun row mem => requests row mem ▸ unfinalized⟩

theorem Clustered.sound {correlationId : String} {samples : List FinalizedRoutingAttemptSample}
    (kept : Kept ledger) (legacy : LegacyEnded ledger)
    (clustered : Clustered ledger correlationId samples ledger') :
    Kept ledger' ∧ Evolves ledger ledger' ∧ ledger'.attempts = ledger.attempts := by
  -- an attempt of the request is legacy, or the finalization has looked at it
  have ended (eligible : ∀ row ∈ ledger.eligibleAttempts correlationId, row.pending = false) :
      ∀ row ∈ ledger.attempts, row.correlationId = correlationId → row.pending = false := by
    intro row mem same
    by_cases isLegacy : row.generationEligibility = .legacy
    · exact legacy row mem isLegacy
    · exact eligible row (mem_eligibleAttempts.mpr ⟨mem, same, isLegacy⟩)
  cases clustered with
  | again => exact ⟨kept, .refl _, rfl⟩
  | @empty row unfinalized noRows request noKey =>
    have requests : ∀ row' ∈ [row], row'.correlationId = correlationId := fun row' mem =>
      List.mem_singleton.mp mem ▸ request
    have nobody (row') : row' ∉ ledger.eligibleAttempts correlationId := by simp [noRows]
    refine ⟨kept.addClusters unfinalized requests (ended fun row' mem => absurd mem (nobody row'))
      (fun _ => ⟨row, List.mem_singleton_self row, noKey⟩) fun row' mem => absurd mem (nobody row'),
      evolves_addClusters unfinalized requests, rfl⟩
  | @keys _ rows count unfinalized eligible someRows _ _ keys requests =>
    refine ⟨kept.addClusters unfinalized requests (ended eligible) (fun none => absurd none someRows)
      fun row mem => ?_, evolves_addClusters unfinalized requests, rfl⟩
    have named : some row.stationKey ∈ rows.map ClusterRow.stationKey := by
      rw [keys]
      obtain ⟨group, memGroup, same⟩ := exists_group mem
      exact List.mem_map.mpr ⟨group, memGroup, congrArg some same⟩
    obtain ⟨cluster, memCluster, key⟩ := List.mem_map.mp named
    exact ⟨cluster, memCluster, key⟩

/-- An operation either leaves the clusters alone, or finalizes one request. -/
inductive Performed (ledger : Ledger) : List FinalizedRoutingAttemptSample → Ledger → Prop
  | quiet {ledger' : Ledger} : Evolves ledger ledger' → ledger'.clusters = ledger.clusters →
    Performed ledger [] ledger'
  | clustered {correlationId : String} {samples : List FinalizedRoutingAttemptSample}
    {ledger' : Ledger} : Clustered ledger correlationId samples ledger' →
    Performed ledger samples ledger'

theorem perform_sound (kept : Kept ledger) (legacy : LegacyEnded ledger) {operation : Operation}
    {samples : List FinalizedRoutingAttemptSample}
    (h : ledger.perform operation = .ok (samples, ledger')) :
    Kept ledger' ∧ LegacyEnded ledger' ∧ Performed ledger samples ledger' := by
  cases operation with
  | admitAttempt admission fence =>
    simp only [perform, bind_ok, pure_ok, Prod.exists, Prod.mk.injEq] at h
    obtain ⟨_, _, isAdmitted, rfl, rfl⟩ := h
    have admitted := admit_cases isAdmitted
    refine ⟨admitted.kept kept, legacy.admitAttempt admitted ?_, .quiet admitted.evolves
      admitted.clusters_eq⟩
    show resolveGenerationEligibility fence ≠ .legacy
    unfold resolveGenerationEligibility
    split <;> nofun
  | markBoundaryCrossed attemptId stationKeyId lifecycleRevision crossedAtMs =>
    simp only [perform, bind_ok, pure_ok, Prod.exists, Prod.mk.injEq] at h
    obtain ⟨_, _, marked, rfl, rfl⟩ := h
    obtain ⟨kept', rewrites⟩ := kept.markBoundaryCrossed marked
    exact ⟨kept', legacy.rewrites rewrites, .quiet rewrites.evolves rewrites.clusters⟩
  | terminalize terminal =>
    simp only [perform, bind_ok, pure_ok, Prod.exists, Prod.mk.injEq] at h
    obtain ⟨_, _, ended, rfl, rfl⟩ := h
    obtain ⟨kept', rewrites⟩ := kept.terminalize ended
    exact ⟨kept', legacy.rewrites rewrites, .quiet rewrites.evolves rewrites.clusters⟩
  | finishAttempt record v3Active =>
    simp only [perform, bind_ok, pure_ok, Prod.exists, Prod.mk.injEq] at h
    obtain ⟨_, _, finished, rfl, rfl⟩ := h
    obtain ⟨kept', legacy', evolves, clusters⟩ := finishAttempt_sound kept legacy finished
    exact ⟨kept', legacy', .quiet evolves clusters⟩
  | recoverStartupInterrupted correlationId recoveredAtMs =>
    simp only [perform, bind_ok, pure_ok, Prod.exists, Prod.mk.injEq] at h
    obtain ⟨_, _, recovered, rfl, rfl⟩ := h
    obtain ⟨kept', rewrites⟩ := kept.recoverStartupInterrupted recovered
    exact ⟨kept', legacy.rewrites rewrites, .quiet rewrites.evolves rewrites.clusters⟩
  | finalizeRequestClusters correlationId finalizedAtMs fence =>
    have clustered := finalizeRequestClusters_cases kept h
    obtain ⟨kept', -, attempts⟩ := clustered.sound kept legacy
    exact ⟨kept', fun row mem => legacy row (attempts ▸ mem), .clustered clustered⟩

theorem Performed.evolves (kept : Kept ledger) (legacy : LegacyEnded ledger)
    {samples : List FinalizedRoutingAttemptSample} (performed : Performed ledger samples ledger') :
    Evolves ledger ledger' := by
  cases performed with
  | quiet evolves _ => exact evolves
  | clustered clustered => exact (clustered.sound kept legacy).2.1

end Ledger

end RelayPool.Attempts
