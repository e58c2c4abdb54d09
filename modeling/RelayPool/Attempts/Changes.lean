import RelayPool.Attempts.Write
import RelayPool.Growth

/-! What an operation does to the ledger.

A row that exists is only ever written while it is pending, and an operation changes no
column of its admission (`AttemptRow.Before`); new rows belong to requests that are not
finalized (`Ledger.Evolves`). What holds between operations (`Ledger.Kept`) says that no
attempt of a finalized request is pending, so a request that is finalized keeps its rows
(`Ledger.Evolves.attemptsOf_eq`). -/
namespace RelayPool.Attempts
open Circuit (PersistenceError toColumn toColumn_ok)
open Table Growth Fallible

/-! ### One row -/

/-- The columns that no update touches. -/
def AttemptRow.admitted (row : AttemptRow) : AttemptRow :=
  { row with boundaryCrossedAtMs := none, ingestionSequence := 0, terminal := none,
             updatedAtMs := 0 }

/-- What a row may become. -/
structure AttemptRow.Before (row row' : AttemptRow) : Prop where
  admitted : row'.admitted = row.admitted
  /-- A terminal stays, and so does all else in the row. -/
  fixed : row.pending = false → row' = row
  /-- The boundary stays crossed. -/
  crossed : row.boundaryCrossed = true → row'.boundaryCrossedAtMs = row.boundaryCrossedAtMs

namespace AttemptRow.Before

variable {row row' row'' : AttemptRow}

theorem refl (row : AttemptRow) : row.Before row := ⟨rfl, fun _ => rfl, fun _ => rfl⟩

theorem trans (first : row.Before row') (second : row'.Before row'') : row.Before row'' where
  admitted := second.admitted.trans first.admitted
  fixed ended := by
    obtain rfl := first.fixed ended
    exact second.fixed ended
  crossed crossed := by
    have same := first.crossed crossed
    refine (second.crossed ?_).trans same
    rwa [AttemptRow.boundaryCrossed, same]

theorem attemptId (h : row.Before row') : row'.attemptId = row.attemptId := by
  show row'.admitted.attemptId = row.admitted.attemptId
  rw [h.admitted]

theorem correlationId (h : row.Before row') : row'.correlationId = row.correlationId := by
  show row'.admitted.correlationId = row.admitted.correlationId
  rw [h.admitted]

theorem slot (h : row.Before row') : row'.slot = row.slot := by
  show row'.admitted.slot = row.admitted.slot
  rw [h.admitted]

theorem eligibility (h : row.Before row') :
    row'.generationEligibility = row.generationEligibility := by
  show row'.admitted.generationEligibility = row.admitted.generationEligibility
  rw [h.admitted]

/-- A pending attempt gets its terminal. -/
theorem terminalized (pending : row.pending) (columns : TerminalColumns) (sequence : Int) :
    row.Before (row.terminalized columns sequence) :=
  ⟨rfl, fun ended => absurd (pending.symm.trans ended) nofun, fun _ => rfl⟩

/-- A pending attempt crosses the boundary. -/
theorem markedCrossed (pending : row.pending) (uncrossed : row.boundaryCrossed = false)
    (crossedAtMs sequence : Int) : row.Before (row.markedCrossed crossedAtMs sequence) :=
  ⟨rfl, fun ended => absurd (pending.symm.trans ended) nofun,
    fun crossed => absurd (crossed.symm.trans uncrossed) nofun⟩

end AttemptRow.Before

/-! ### The tables -/

namespace Ledger

variable {ledger ledger' ledger'' : Ledger} {correlationId : String}

/-- What was there is there, and what is new belongs to requests that were not finalized. -/
structure Evolves (ledger ledger' : Ledger) : Prop where
  attempts : Grows AttemptRow.Before (fun row => ledger.finalized row.correlationId = false)
    ledger.attempts ledger'.attempts
  clusters : Grows Eq (fun row => ledger.finalized row.correlationId = false)
    ledger.clusters ledger'.clusters

/-- Rows are written over, and that is all. -/
structure Rewrites (ledger ledger' : Ledger) : Prop where
  attempts : Grows AttemptRow.Before (fun _ => False) ledger.attempts ledger'.attempts
  clusters : ledger'.clusters = ledger.clusters

/-- What every operation keeps. -/
structure Kept (ledger : Ledger) : Prop where
  keyed : Keyed AttemptRow.attemptId ledger.attempts
  checks : ∀ row ∈ ledger.attempts, row.Checks
  slots : (ledger.attempts.map AttemptRow.slot).Nodup
  ended : ∀ row ∈ ledger.attempts, ledger.finalized row.correlationId → row.pending = false
  clustered : ∀ correlationId, ledger.finalized correlationId →
    (ledger.eligibleAttempts correlationId = [] →
      (ledger.clusterOf correlationId none).isSome) ∧
    ∀ row ∈ ledger.eligibleAttempts correlationId,
      (ledger.clusterOf correlationId (some row.stationKey)).isSome

theorem finalized_iff :
    ledger.finalized correlationId ↔ ∃ row ∈ ledger.clusters, row.correlationId = correlationId := by
  simp [finalized]

theorem finalized_of_clusterOf {key : Option (String × Int)}
    (h : (ledger.clusterOf correlationId key).isSome) : ledger.finalized correlationId := by
  obtain ⟨row, found⟩ := Option.isSome_iff_exists.mp h
  have hit := List.find?_some found
  simp only [decide_eq_true_eq] at hit
  exact finalized_iff.mpr ⟨row, List.mem_of_find?_eq_some found, hit.1⟩

namespace Rewrites

theorem refl (ledger : Ledger) : Rewrites ledger ledger := ⟨.refl .refl _, rfl⟩

theorem of_rows (attempts : ledger'.attempts = ledger.attempts)
    (clusters : ledger'.clusters = ledger.clusters) : Rewrites ledger ledger' :=
  ⟨attempts ▸ .refl .refl _, clusters⟩

theorem trans (first : Rewrites ledger ledger') (second : Rewrites ledger' ledger'') :
    Rewrites ledger ledger'' :=
  ⟨first.attempts.trans .trans (fun none _ => none) second.attempts,
    second.clusters.trans first.clusters⟩

theorem evolves (rewrites : Rewrites ledger ledger') : Evolves ledger ledger' :=
  ⟨rewrites.attempts.imp fun _ none => none.elim, rewrites.clusters ▸ .refl (fun _ => rfl) _⟩

theorem mem (rewrites : Rewrites ledger ledger') {row' : AttemptRow} (h : row' ∈ ledger'.attempts) :
    ∃ row ∈ ledger.attempts, row.Before row' := (rewrites.attempts.mem h).resolve_right id

theorem finalized (rewrites : Rewrites ledger ledger') (correlationId : String) :
    ledger'.finalized correlationId = ledger.finalized correlationId := by
  rw [Ledger.finalized, Ledger.finalized, rewrites.clusters]

end Rewrites

namespace Evolves

theorem refl (ledger : Ledger) : Evolves ledger ledger := (Rewrites.refl ledger).evolves

theorem finalized (evolves : Evolves ledger ledger') (h : ledger.finalized correlationId) :
    ledger'.finalized correlationId := by
  obtain ⟨row, mem, same⟩ := finalized_iff.mp h
  obtain ⟨_, mem', rfl⟩ := evolves.clusters.mem_left mem
  exact finalized_iff.mpr ⟨row, mem', same⟩

theorem unfinalized (evolves : Evolves ledger ledger')
    (h : ledger'.finalized correlationId = false) : ledger.finalized correlationId = false :=
  Bool.eq_false_iff.mpr fun already => Bool.eq_false_iff.mp h (evolves.finalized already)

theorem trans (first : Evolves ledger ledger') (second : Evolves ledger' ledger'') :
    Evolves ledger ledger'' where
  attempts := first.attempts.trans .trans (fun new related => related.correlationId ▸ new)
    (second.attempts.imp fun _ => first.unfinalized)
  clusters := first.clusters.trans .trans (fun new related => related ▸ new)
    (second.clusters.imp fun _ => first.unfinalized)

/-- A row is found under its attempt ever after. -/
theorem attempt (evolves : Evolves ledger ledger') {attemptId : String} {row : AttemptRow}
    (found : ledger.attempt attemptId = some row) :
    ∃ row', ledger'.attempt attemptId = some row' ∧ row.Before row' :=
  evolves.attempts.lookup (fun _ _ related => related.attemptId) found

/-- A finalized request keeps its attempts. -/
theorem attemptsOf_eq (kept : Kept ledger) (evolves : Evolves ledger ledger')
    (h : ledger.finalized correlationId) :
    ledger'.attemptsOf correlationId = ledger.attemptsOf correlationId := by
  refine evolves.attempts.filter_eq (fun row mem row' related chosen => ?_)
    (fun row row' related outside => ?_) fun row new => ?_
  · have same : row.correlationId = correlationId := by simpa using chosen
    exact related.fixed (kept.ended row mem (same ▸ h))
  · simpa [related.correlationId] using outside
  · refine decide_eq_false fun same => ?_
    rw [same, h] at new
    cases new

theorem clustersOf_eq (evolves : Evolves ledger ledger') (h : ledger.finalized correlationId) :
    ledger'.clustersOf correlationId = ledger.clustersOf correlationId := by
  refine evolves.clusters.filter_eq (fun row _ row' related _ => related.symm)
    (fun row row' related outside => related ▸ outside) fun row new => ?_
  refine decide_eq_false fun same => ?_
  rw [same, h] at new
  cases new

end Evolves

/-! ### The invariant -/

theorem kept_initial : Kept initial where
  keyed := List.nodup_nil
  checks _ mem := nomatch mem
  slots := List.nodup_nil
  ended _ mem := nomatch mem
  clustered _ finalized := Bool.noConfusion (show false = true from finalized)

theorem Kept.of_rows (kept : Kept ledger) (attempts : ledger'.attempts = ledger.attempts)
    (clusters : ledger'.clusters = ledger.clusters) : Kept ledger' := by
  obtain ⟨rows, clusterRows, _, _⟩ := ledger
  obtain ⟨_, _, audits, nextSequence⟩ := ledger'
  obtain rfl : _ = rows := attempts
  obtain rfl : _ = clusterRows := clusters
  exact ⟨kept.keyed, kept.checks, kept.slots, kept.ended, kept.clustered⟩

theorem eligibleAttempts_congr
    (same : ledger'.attemptsOf correlationId = ledger.attemptsOf correlationId) :
    ledger'.eligibleAttempts correlationId = ledger.eligibleAttempts correlationId := by
  rw [eligibleAttempts, eligibleAttempts, same]

/-- As long as no cluster is written, the rows of finalized requests are the old ones. -/
theorem Kept.evolved (kept : Kept ledger) (evolves : Evolves ledger ledger')
    (clusters : ledger'.clusters = ledger.clusters)
    (keyed : Keyed AttemptRow.attemptId ledger'.attempts)
    (checks : ∀ row ∈ ledger'.attempts, row.Checks)
    (slots : (ledger'.attempts.map AttemptRow.slot).Nodup) : Kept ledger' where
  keyed
  checks
  slots
  ended row mem finalized := by
    have before : ledger.finalized row.correlationId := by
      rwa [Ledger.finalized, clusters] at finalized
    have old : row ∈ ledger.attemptsOf row.correlationId := by
      rw [← evolves.attemptsOf_eq kept before]
      exact List.mem_filter.mpr ⟨mem, decide_eq_true rfl⟩
    exact kept.ended row (List.mem_filter.mp old).1 before
  clustered correlationId finalized := by
    have before : ledger.finalized correlationId := by
      rwa [Ledger.finalized, clusters] at finalized
    rw [eligibleAttempts_congr (evolves.attemptsOf_eq kept before)]
    have sameCluster (key) : ledger'.clusterOf correlationId key =
      ledger.clusterOf correlationId key := by rw [clusterOf, clusterOf, clusters]
    simpa only [sameCluster] using kept.clustered correlationId before

theorem slots_put (keyed : Keyed AttemptRow.attemptId ledger.attempts) {current row : AttemptRow}
    (found : ledger.attempt row.attemptId = some current) (before : current.Before row) :
    (put AttemptRow.attemptId row ledger.attempts).map AttemptRow.slot =
      ledger.attempts.map AttemptRow.slot := by
  obtain ⟨mem, hit⟩ := lookup_some found
  rw [put_eq_map, List.map_map]
  refine List.map_congr_left fun other mem' => ?_
  rw [Function.comp_apply]
  split
  · rename_i here
    rw [before.slot, keyed.inj mem' mem (here.trans hit.symm)]
  · rfl

/-- One row is written over. -/
theorem Kept.write (kept : Kept ledger) {current row : AttemptRow}
    (found : ledger.attempt current.attemptId = some current) (before : current.Before row)
    (written : ledger.write row = .ok ledger') : Kept ledger' ∧ Rewrites ledger ledger' := by
  rw [← before.attemptId] at found
  unfold Ledger.write at written
  split at written
  · rename_i checks
    obtain rfl := Except.ok.inj written
    have rewrites : Rewrites ledger { ledger with
        attempts := put AttemptRow.attemptId row ledger.attempts
        nextSequence := ledger.nextSequence + 1 } :=
      ⟨.put .refl kept.keyed found before, rfl⟩
    refine ⟨kept.evolved rewrites.evolves rfl kept.keyed.put (fun other mem => ?_) ?_, rewrites⟩
    · obtain ⟨old, mem', rfl⟩ := mem_updateWhere.mp mem
      split
      · exact checks
      · exact kept.checks old mem'
    · exact (slots_put kept.keyed found before).symm ▸ kept.slots
  · cases written

/-! ### One operation -/

@[simp] theorem audit_attempts (row : LateAudit) : (ledger.audit row).attempts = ledger.attempts := by
  unfold audit
  split <;> rfl

@[simp] theorem audit_clusters (row : LateAudit) : (ledger.audit row).clusters = ledger.clusters := by
  unfold audit
  split <;> rfl

/-- A late admission leaves a trace in the audit only. -/
theorem auditLateAdmissionIfFinalized_ok {admission : RoutingAttemptAdmission} {late : Bool}
    (h : ledger.auditLateAdmissionIfFinalized admission = .ok (late, ledger')) :
    late = ledger.finalized admission.correlationId ∧ ledger'.attempts = ledger.attempts ∧
      ledger'.clusters = ledger.clusters ∧ (late = false → ledger' = ledger) := by
  unfold auditLateAdmissionIfFinalized at h
  split at h
  · rename_i finalized
    simp only [bind_ok, pure_ok, Prod.mk.injEq] at h
    obtain ⟨_, -, _, -, rfl, rfl⟩ := h
    exact ⟨finalized.symm, audit_attempts _, audit_clusters _, nofun⟩
  · rename_i unfinalized
    simp only [pure_ok, Prod.mk.injEq] at h
    obtain ⟨rfl, rfl⟩ := h
    exact ⟨(Bool.eq_false_iff.mpr unfinalized).symm, rfl, rfl, fun _ => rfl⟩

/-- What an admission does. -/
inductive Admitted (ledger : Ledger) (admission : RoutingAttemptAdmission) : Ledger → Prop
  | late {ledger' : Ledger} : ledger.finalized admission.correlationId →
    ledger'.attempts = ledger.attempts → ledger'.clusters = ledger.clusters →
    Admitted ledger admission ledger'
  | again : (ledger.attempt admission.attemptId).isSome → Admitted ledger admission ledger
  | inserted {row : AttemptRow} : ledger.finalized admission.correlationId = false →
    admittedRow admission ledger.nextSequence = .ok row → row.Checks →
    ledger.attempt admission.attemptId = none → (∀ other ∈ ledger.attempts, other.slot ≠ row.slot) →
    Admitted ledger admission { ledger with
      attempts := ledger.attempts ++ [row], nextSequence := ledger.nextSequence + 1 }

theorem admit_cases {admission : RoutingAttemptAdmission} {result : RoutingAttemptAdmissionResult}
    (h : ledger.admitAttempt admission = .ok (result, ledger')) : Admitted ledger admission ledger' := by
  unfold admitAttempt at h
  simp only [bind_ok, Prod.exists] at h
  obtain ⟨_, -, late, audited, isAudited, h⟩ := h
  obtain ⟨isLate, attempts, clusters, same⟩ := auditLateAdmissionIfFinalized_ok isAudited
  cases late with
  | true =>
    simp only [if_true, pure_ok, Prod.mk.injEq] at h
    obtain ⟨-, rfl⟩ := h
    exact .late isLate.symm attempts clusters
  | false =>
    obtain rfl := same rfl
    simp only [Bool.false_eq_true, if_false, bind_ok, guard_ok, not_not] at h
    obtain ⟨row, isRow, checks, h⟩ := h
    split at h
    · rename_i existing found
      simp only [guard_ok, pure_ok, Prod.mk.injEq] at h
      obtain ⟨-, -, rfl⟩ := h
      exact .again (Option.isSome_iff_exists.mpr ⟨existing, found⟩)
    · rename_i absent
      simp only [guard_ok, pure_ok, Prod.mk.injEq] at h
      obtain ⟨free, -, rfl⟩ := h
      refine .inserted isLate.symm isRow checks absent fun other mem same => free ?_
      exact List.any_eq_true.mpr ⟨other, mem, decide_eq_true same⟩

theorem admittedRow_ok {admission : RoutingAttemptAdmission} {sequence : Int} {row : AttemptRow}
    (h : admittedRow admission sequence = .ok row) :
    row.attemptId = admission.attemptId ∧ row.correlationId = admission.correlationId ∧
      row.generationEligibility = admission.generationEligibility ∧ row.terminal = none ∧
      row.boundaryCrossedAtMs = none := by
  unfold admittedRow at h
  simp only [bind_ok, pure_ok] at h
  obtain ⟨_, -, _, -, _, -, _, -, rfl⟩ := h
  exact ⟨rfl, rfl, rfl, rfl, rfl⟩

theorem Admitted.evolves {admission : RoutingAttemptAdmission}
    (admitted : Admitted ledger admission ledger') : Evolves ledger ledger' := by
  cases admitted with
  | late _ attempts clusters => exact (Rewrites.of_rows attempts clusters).evolves
  | again => exact .refl ledger
  | inserted unfinalized isRow _ _ _ =>
    obtain ⟨-, correlation, -⟩ := admittedRow_ok isRow
    exact ⟨.concat .refl (correlation ▸ unfinalized), .refl (fun _ => rfl) _⟩

theorem Admitted.clusters_eq {admission : RoutingAttemptAdmission}
    (admitted : Admitted ledger admission ledger') : ledger'.clusters = ledger.clusters := by
  cases admitted with
  | late _ _ clusters => exact clusters
  | again => rfl
  | inserted => rfl

theorem Admitted.kept {admission : RoutingAttemptAdmission}
    (admitted : Admitted ledger admission ledger') (kept : Kept ledger) : Kept ledger' := by
  have evolves := admitted.evolves
  cases admitted with
  | late _ attempts clusters => exact kept.of_rows attempts clusters
  | again => exact kept
  | @inserted row unfinalized isRow checks absent free =>
    obtain ⟨attemptId, -⟩ := admittedRow_ok isRow
    refine kept.evolved evolves rfl (kept.keyed.concat (attemptId ▸ absent)) (fun other mem => ?_) ?_
    · rcases List.mem_append.mp mem with old | new
      · exact kept.checks other old
      · exact List.mem_singleton.mp new ▸ checks
    · rw [List.map_append, List.map_singleton, List.nodup_append]
      refine ⟨kept.slots, List.nodup_singleton _, fun slot mem slot' mem' same => ?_⟩
      obtain ⟨other, old, rfl⟩ := List.mem_map.mp mem
      exact free other old (same.trans (List.mem_singleton.mp mem'))

/-- The boundary of a pending attempt is written, or nothing is. -/
theorem markBoundaryCrossed_cases {attemptId stationKeyId : String}
    {lifecycleRevision crossedAtMs : UInt64} {result : Bool}
    (h : ledger.markBoundaryCrossed attemptId stationKeyId lifecycleRevision crossedAtMs =
      .ok (result, ledger')) :
    ledger' = ledger ∨ ∃ current at_, ledger.attempt attemptId = some current ∧
      current.pending = true ∧ current.boundaryCrossed = false ∧
      ledger.write (current.markedCrossed at_ ledger.nextSequence) = .ok ledger' := by
  unfold markBoundaryCrossed at h
  simp only [bind_ok] at h
  obtain ⟨at_, -, revision, -, h⟩ := h
  split at h
  · simp only [pure_ok, Prod.mk.injEq] at h
    exact .inl h.2.symm
  · rename_i current found
    rcases ite_ok.mp h with ⟨-, h⟩ | ⟨-, h⟩
    · simp only [pure_ok, Prod.mk.injEq] at h
      exact .inl h.2.symm
    rcases ite_ok.mp h with ⟨-, h⟩ | ⟨uncrossed, h⟩
    · simp only [pure_ok, Prod.mk.injEq] at h
      exact .inl h.2.symm
    rcases ite_ok.mp h with ⟨-, h⟩ | ⟨pending, h⟩
    · simp only [pure_ok, Prod.mk.injEq] at h
      exact .inl h.2.symm
    simp only [bind_ok, pure_ok, Prod.mk.injEq] at h
    obtain ⟨_, written, -, rfl⟩ := h
    exact .inr ⟨current, at_, found, not_not.mp pending, Bool.eq_false_iff.mpr uncrossed, written⟩

theorem auditLateTerminalIfFinalized_ok {current : AttemptRow} {terminal : RoutingAttemptTerminal}
    {late : Bool} (h : ledger.auditLateTerminalIfFinalized current terminal = .ok (late, ledger')) :
    late = ledger.finalized current.correlationId ∧ ledger'.attempts = ledger.attempts ∧
      ledger'.clusters = ledger.clusters ∧ (late = false → ledger' = ledger) := by
  unfold auditLateTerminalIfFinalized at h
  split at h
  · rename_i finalized
    simp only [bind_ok, pure_ok, Prod.mk.injEq] at h
    obtain ⟨_, -, rfl, rfl⟩ := h
    exact ⟨finalized.symm, audit_attempts _, audit_clusters _, nofun⟩
  · rename_i unfinalized
    simp only [pure_ok, Prod.mk.injEq] at h
    obtain ⟨rfl, rfl⟩ := h
    exact ⟨(Bool.eq_false_iff.mpr unfinalized).symm, rfl, rfl, fun _ => rfl⟩

/-- What a terminal does to the attempt it names. -/
inductive Ended (ledger : Ledger) (terminal : RoutingAttemptTerminal) (current : AttemptRow) :
    Ledger → Prop
  | late {ledger' : Ledger} : ledger.finalized current.correlationId →
    ledger'.attempts = ledger.attempts → ledger'.clusters = ledger.clusters →
    Ended ledger terminal current ledger'
  | again {stored : TerminalColumns} : ledger.finalized current.correlationId = false →
    current.terminal = some stored → Ended ledger terminal current ledger
  | stored {canonical : CanonicalTerminal} {columns : TerminalColumns} {ledger' : Ledger} :
    ledger.finalized current.correlationId = false → current.pending = true →
    canonicalTerminal terminal current.boundaryCrossed = .ok canonical →
    terminalColumns terminal canonical = .ok columns →
    ledger.write (current.terminalized columns ledger.nextSequence) = .ok ledger' →
    Ended ledger terminal current ledger'

theorem terminalize_cases {terminal : RoutingAttemptTerminal}
    {result : RoutingAttemptTerminalResult}
    (h : ledger.terminalize terminal = .ok (result, ledger')) :
    ∃ current, ledger.attempt terminal.attemptId = some current ∧
      Ended ledger terminal current ledger' := by
  unfold terminalize at h
  split at h
  · rename_i current found
    refine ⟨current, found, ?_⟩
    simp only [bind_ok, Prod.exists] at h
    obtain ⟨canonical, isCanonical, late, audited, isAudited, h⟩ := h
    obtain ⟨isLate, attempts, clusters, same⟩ := auditLateTerminalIfFinalized_ok isAudited
    cases late with
    | true =>
      simp only [if_true, pure_ok, Prod.mk.injEq] at h
      obtain ⟨-, rfl⟩ := h
      exact .late isLate.symm attempts clusters
    | false =>
      obtain rfl := same rfl
      simp only [Bool.false_eq_true, if_false] at h
      split at h
      · rename_i stored isStored
        simp only [bind_ok, pure_ok, Prod.mk.injEq] at h
        obtain ⟨_, -, -, rfl⟩ := h
        exact .again isLate.symm isStored
      · rename_i pending
        simp only [bind_ok, pure_ok, Prod.mk.injEq] at h
        obtain ⟨columns, isColumns, _, written, -, rfl⟩ := h
        exact .stored isLate.symm (by rw [AttemptRow.pending, pending]; rfl) isCanonical isColumns
          written
  · cases h

theorem attempt_self {attemptId : String} {row : AttemptRow}
    (found : ledger.attempt attemptId = some row) : ledger.attempt row.attemptId = some row := by
  rwa [(lookup_some found).2]

theorem Kept.markBoundaryCrossed (kept : Kept ledger) {attemptId stationKeyId : String}
    {lifecycleRevision crossedAtMs : UInt64} {result : Bool}
    (h : ledger.markBoundaryCrossed attemptId stationKeyId lifecycleRevision crossedAtMs =
      .ok (result, ledger')) : Kept ledger' ∧ Rewrites ledger ledger' := by
  rcases markBoundaryCrossed_cases h with rfl | ⟨current, at_, found, pending, uncrossed, written⟩
  · exact ⟨kept, .refl _⟩
  · have before : current.Before (current.markedCrossed at_ ledger.nextSequence) :=
      .markedCrossed pending uncrossed _ _
    exact kept.write (attempt_self found) before written

theorem Kept.terminalize (kept : Kept ledger) {terminal : RoutingAttemptTerminal}
    {result : RoutingAttemptTerminalResult}
    (h : ledger.terminalize terminal = .ok (result, ledger')) :
    Kept ledger' ∧ Rewrites ledger ledger' := by
  obtain ⟨current, found, ended⟩ := terminalize_cases h
  cases ended with
  | late _ attempts clusters => exact ⟨kept.of_rows attempts clusters, .of_rows attempts clusters⟩
  | again => exact ⟨kept, .refl _⟩
  | stored _ pending _ _ written =>
    exact kept.write (attempt_self found) (.terminalized pending _ _) written

/-! ### The repair -/

theorem write_ok {row : AttemptRow} : ledger.write row = .ok ledger' ↔
    row.Checks ∧ ledger' = { ledger with
      attempts := put AttemptRow.attemptId row ledger.attempts
      nextSequence := ledger.nextSequence + 1 } := by
  unfold Ledger.write
  split
  · rename_i checks
    exact ⟨fun h => ⟨checks, (Except.ok.inj h).symm⟩, fun h => congrArg _ h.2.symm⟩
  · rename_i unchecked
    refine ⟨fun h => ?_, fun h => absurd h.1 unchecked⟩
    cases h

/-- Another attempt is still found as it was. -/
theorem attempt_write {row : AttemptRow} (written : ledger.write row = .ok ledger')
    {attemptId : String} (other : row.attemptId ≠ attemptId) :
    ledger'.attempt attemptId = ledger.attempt attemptId := by
  obtain ⟨-, rfl⟩ := write_ok.mp written
  exact lookup_put.trans (if_neg other)

theorem attempt_written {row current : AttemptRow} (written : ledger.write row = .ok ledger')
    (found : ledger.attempt row.attemptId = some current) :
    ledger'.attempt row.attemptId = some row := by
  obtain ⟨-, rfl⟩ := write_ok.mp written
  refine (lookup_put.trans (if_pos rfl)).trans ?_
  rw [show lookup AttemptRow.attemptId ledger.attempts row.attemptId = some current from found]
  rfl

/-- Each of the rows is still pending when the repair comes to it. -/
theorem Kept.recoverAttempts {recoveredAtMs : Int} {rows : List AttemptRow} (kept : Kept ledger)
    (distinct : (rows.map AttemptRow.attemptId).Nodup)
    (pending : ∀ row ∈ rows, ledger.attempt row.attemptId = some row ∧ row.pending = true)
    (h : rows.foldlM (recoverAttempt recoveredAtMs) ledger = .ok ledger') :
    Kept ledger' ∧ Rewrites ledger ledger' := by
  induction rows generalizing ledger with
  | nil =>
    obtain rfl := pure_ok.mp h
    exact ⟨kept, .refl _⟩
  | cons row rest ih =>
    rw [List.foldlM_cons, bind_ok] at h
    obtain ⟨next, written, h⟩ := h
    obtain ⟨fresh, distinct⟩ := List.nodup_cons.mp distinct
    obtain ⟨found, isPending⟩ := pending row (List.mem_cons_self ..)
    have before : row.Before (row.terminalized (interruptedColumns row recoveredAtMs)
      ledger.nextSequence) := .terminalized isPending _ _
    obtain ⟨keptNext, rewrites⟩ := kept.write found before written
    have others : ∀ other ∈ rest,
        next.attempt other.attemptId = some other ∧ other.pending = true := by
      intro other mem
      have different : row.attemptId ≠ other.attemptId := fun same =>
        fresh (same ▸ List.mem_map_of_mem mem)
      rw [attempt_write written different]
      exact pending other (.tail _ mem)
    exact (ih keptNext distinct others h).imp_right rewrites.trans

theorem Kept.recoverStartupInterrupted (kept : Kept ledger) {recoveredAtMs : Int} {count : Nat}
    (h : ledger.recoverStartupInterrupted correlationId recoveredAtMs = .ok (count, ledger')) :
    Kept ledger' ∧ Rewrites ledger ledger' := by
  unfold Ledger.recoverStartupInterrupted at h
  rw [guard_ok, bind_ok] at h
  obtain ⟨-, last, recovered, h⟩ := h
  obtain ⟨-, rfl⟩ := Prod.mk.inj (pure_ok.mp h)
  have perm := List.perm_insertionSort (visitKey · ≤ visitKey ·)
    ((ledger.attemptsOf correlationId).filter (·.pending))
  refine kept.recoverAttempts ?_ (fun row mem => ?_) recovered
  · refine ((perm.map _).nodup_iff).mpr (kept.keyed.sublist (List.Sublist.map _ ?_))
    exact List.filter_sublist.trans List.filter_sublist
  · obtain ⟨mem, pending⟩ := List.mem_filter.mp (perm.mem_iff.mp mem)
    exact ⟨kept.keyed.lookup (List.mem_filter.mp mem).1, pending⟩

end Ledger

end RelayPool.Attempts
